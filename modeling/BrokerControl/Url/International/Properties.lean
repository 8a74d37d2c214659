/-!
# Properties of characters in domain names

Runs of characters with one property, in their order. A run is the distance from the end of the run
before, in hexadecimal, its length behind a plus sign unless it is one, and the property behind a
colon if there are several. Characters that cannot stand in a name are not told apart.
-/

namespace BrokerControl.International

/-- The characters that combine with others, with their combining classes. -/
def classRuns : List String := [
  "300+15:e6 0:e8 0+4:dc 0:e8 0:d8 0+5:dc 0+2:ca 0+4:dc 0+2:ca 0+b:dc 0+5:1 0+4:dc 0+a:e6",
  "0+3:dc 0+3:e6 0+2:dc 1+3:e6 0+4:dc 0:e6 0:e8 0+2:dc 0:e6 0:e9 0+2:ea 0:e9 0+2:ea 0:e9 0+d:e6",
  "113+5:e6 109:dc 0+4:e6 0:dc 0+3:e6 0:de 0:dc 0+6:e6 0+6:dc 0+2:e6 0:dc 0+2:e6 0:de 0:e4 0:e6",
  "0:a 0:b 0:c 0:d 0:e 0:f 0:10 0:11 0:12 0+2:13 0:14 0:15 0:16 1:17 1:18 0:19 1:e6 0:dc 1:12",
  "48+8:e6 0:1e 0:1f 0:20 30:1b 0:1c 0:1d 0:1e 0:1f 0:20 0:21 0:22 0+2:e6 0+2:dc 0+5:e6 0:dc",
  "0+2:e6 0:dc 10:23 65+7:e6 2+4:e6 0:dc 0:e6 2+2:e6 1:dc 0+2:e6 0:dc 23:24 1e:e6 0:dc 0+2:e6",
  "0:dc 0+2:e6 0+3:dc 0:e6 0+2:dc 0:e6 0:dc 0+3:e6 0:dc 0:e6 0:dc 0:e6 0:dc 0:e6 0:dc 0+2:e6",
  "a0+7:e6 0:dc 0:e6 9:dc 18+4:e6 1+9:e6 1+3:e6 1+5:e6 2b+3:dc 3c:e6 0+3:dc 0+4:e6 2a+5:e6",
  "0+5:dc 0+e:e6 1:dc 0+2:e6 0:dc 0+2:e6 0:dc 0+3:e6 0+3:dc 0:1b 0:1c 0:1d 0+3:e6 0:dc 0+2:e6",
  "0+2:dc 0+5:e6 3c:7 10:9 3:e6 0:dc 0+2:e6 67:7 10:9 30:e6 3d:7 10:9 6e:7 10:9 6e:7 10:9 7f:9",
  "6e:7 10:9 7:54 0:5b 65:7 10:9 6d+2:9 10:9 7c:9 6d+2:67 0:9 d+4:6b 6c+2:76 0:9 d+4:7a 4c+2:dc",
  "1b:dc 1:dc 1:d8 37:81 0:82 1:84 5+4:82 2:82 1+2:e6 0:9 1+2:e6 3e:dc 70:7 1+2:9 52:dc",
  "2cf+3:e6 3b4+2:9 1e:9 9d:9 a:e6 cb:e4 8f:de 0:e6 0:dc db:e6 0:dc 47:9 14+8:e6 2:dc 30+5:e6",
  "0+6:dc 0+2:e6 0:dc 1+2:dc 0+2:e6 0+2:dc 0+5:e6 0:dc 0+4:e6 65:7 f:9 26:e6 0:dc 0+7:e6 36+2:9",
  "3a:7 b+2:9 43:7 98+3:e6 1:1 0+5:dc 0+2:e6 0+4:dc 0:e6 1+7:1 4:dc 6:e6 3+2:e6 c6+2:e6 0:dc",
  "0+7:e6 0:dc 0+2:e6 0:ea 0:d6 0:dc 0:ca 0+25:e6 0:e8 0+2:e4 0:dc 0:da 0:e6 0:e9 0:dc 0:e6",
  "0:dc 2d0+2:e6 0+2:1 0+4:e6 0+3:1 0+2:e6 4:e6 3+2:1 0:e6 0:dc 0:e6 0+2:1 0+4:dc 0:e6 bfe+3:e6",
  "8d:9 60+20:e6 22a:da 0:e4 0:e8 0:de 0+2:e0 69+2:8 75d4:e6 4+a:e6 20+2:e6 50+2:e6 114:9 25:9",
  "97:9 1b+12:e6 39+3:dc 25:9 5f:7 c:9 ef:e6 1+2:e6 0:dc 2+2:e6 5+2:e6 1:e6 34:9 f6:9 4f30:1a",
  "301+7:e6 0+7:dc 0+2:e6 3cd:dc e2:dc 95+5:e6 692:dc 1:e6 28:e6 0:1 0:dc 4:9 a5:e6 0:dc",
  "23d+4:e6 183+2:e6 99+2:dc 0+3:e6 0:dc 0:e6 0+4:dc 31:e6 0:dc 0:e6 0:dc c0:9 29:9 e:9 39:9",
  "0:7 45+3:e6 30+2:9 3e:7 4c:9 9:7 6a:9 0:7 b2:7 0:9 50+2:7 10:9 18+f:e6 cd:9 3:7 17:e6 63:9",
  "0:7 fb:9 0:7 7e:9 76:9 0:7 73:9 10d:9 0:7 102+2:9 4:7 9c:9 53:9 12:9 51:9 1a5:9 102:7 1+2:9",
  "51:9 4d58+5:1 3b+7:e6 4b9+2:6 4cac:1 14c6+2:d8 0+3:1 3:e2 0+5:d8 8+8:dc 2+5:e6 0+2:dc",
  "1e+4:e6 94+3:e6 dbb+2b:e6 105+7:e6 177:e6 3d+4:e6 5e0+7:dc 6d+6:e6 0:7"]

/-- The marks, which cannot start a label. -/
def markRuns : List String := [
  "300+70 113+7 107+2d 1 1+2 1+2 1 48+b 30+15 10 65+7 2+6 2+2 1+4 23 1e+1b 5b+b 3a+9 9 18+4 1+9",
  "1+3 1+5 2b+3 3c+8 2a+3a 36+3 1+12 1+7 a+2 1d+3 38 1+10 9 a+2 1a+6 38+16 1e+2 3 b+3 38 1+10",
  "14+2 16+a 38 1+1a a+2 1e 3b+10 9 28+5 37 1+19 b+2 1d+3 38 1+19 b+2 1c+4 37+2 1+10 9 a+2 1d+3",
  "46+16 12+2 3d 2+7 c+8 62 2+9 b+6 4a+2 1b 1 1 4+2 31+14 1+2 5+30 9 64+14 17+4 4+3 1+3 2+7 3+4",
  "d+c 1 a+4 2bf+3 3b2+4 1c+3 1d+2 1e+2 42+1e 9 a7+2 22 76+1c db+5 39+2b 30+1f 31+5 2f+11 26+9",
  "c+3 1e+d 38+e 30+14 98+3 1+15 4 6 2+3 c6+40 2d0+21 bfe+3 8d 60+20 22a+6 69+2 75d4+4 1+a 20+2",
  "50+2 110 3 4 17+5 4 53+2 32+12 1a+12 d 26+8 19+d 2c+4 2f+e 24 43+e c 8+2 2d+3 32 1+3 2+2 5+2",
  "1 29+5 5+2 ec+8 1+2 4f30 301+10 3cd e2 95+5 686+f 28+8 a5+2 23d+4 183+2 99+b 31+4 7a+3 35+f",
  "29 2+2 a+4 2d+b 7 3d+3 24+e 10+2 2c c+3 30+e 8+4 1+2 5c+c 6 a0+c 15+4 37+2 1+10 9 a+13 c0+12",
  "17 51+14 eb+12 1b+2 52+11 6a+d 65+f 100+f f5+f 1 1+2 8d+10 3 1c+a 28+7 1+4 8 9+b 2e+10",
  "195+11 52+25 7a+15 1 42+e 15b+4 4bf9+5 3b+7 418 1+42 51+e 4cab+2 1261+47 21e+5 3+16 2+7 1e+4",
  "94+3 7bb+37 4+32 8 e 16+15 550+2b 105+7 177 3d+4 5e0+7 6d+7"]

/-- The directions that are not left to right: `R` right to left, `A` numbers written among them,
`E` other numbers, `N` marks, `O` neutral characters, `X` any other. -/
def directionRuns : List String := [
  "0+9:O 0+5:X 0+e:O 0+5:X 0+f:O 0+a:E 0+27:O 1a+5d:O 1f:O 1c1+2:O 7+e:O 2+1c:O 1+11:O 0+70:N",
  "5:O 80:O 8c+7:N 100+6:O 1+2d:N 0:R 0:N 0:R 0+2:N 0:R 0+2:N 0:R 0:N 8+25:R 11+2:O 0:R 0+2:O",
  "0:R 0:O 0:R 0+2:O 0+b:N 0+30:R 0+15:N 0+a:A 0:O 0+2:A 0+3:R 0:N 0+65:R 0+7:N 1:O 0+6:N 0+2:R",
  "0+2:N 0:O 0+4:N 0+2:R 0+a:E 0+17:R 0:N 0+1e:R 0+1b:N 2+59:R 0+b:N 0+3a:R 0+9:N 0+2:R 0+4:O",
  "0:R 2:N 0+18:R 0+4:N 0:R 0+9:N 0:R 0+3:N 0:R 0+5:N 2+29:R 0+3:N 2+3a:R 0+8:N 0+2a:R 0+39:N",
  "37:N 1:N 4+8:N 4:N 3+7:N a+2:N 1d:N 3a:N 4+4:N 8:N 14+2:N e+2:O 7:O 2+5:N 39:N 4+11:N 1e+2:N",
  "3:N b+2:N 39:N 4+8:N 4:N 14+2:N d:O 8+8:N 3a:N 2:N 1+4:N 8+a:N b+2:N 1e:N 3d:N c:N 25+8:O",
  "5:N 3:N 37:N 1+3:N 5+11:N b+2:N 14+7:O 2:N 3a:N f+2:N 14+2:N 1c+2:N 39+2:N 4+4:N 8:N 14+2:N",
  "1d:N 48:N 7+5:N 5a:N 2+7:N 4:O 7+8:N 62:N 2+9:N b+6:N 4a+2:N 1b:N 1:N 1:N 0+4:O 33+e:N 1+5:N",
  "1+2:N 5+30:N 9:N 66+4:N 1+6:N 1+2:N 2+2:N 19+2:N 4+3:N 10+4:N d:N 2+2:N 6:N f:N 2bf+3:N",
  "30+a:O 66:O 29a+2:O 75+3:N 1d+2:N 1e+2:N 1e+2:N 43+7:N 8:N 2+b:N 7:O 1:N 12+1b:O 7a+2:N 22:N",
  "76+3:N 4+2:N 9:N 6+3:N 4+6:O 98+22:O 17+2:N 2:N 3a:N 1+9:N 1:N 2+8:N 6+d:N 30+1f:N 31+4:N",
  "30:N 1+5:N 1:N 5:N 28+9:N c+2:N 20+4:N 2+2:N 1+3:N 38:N 1+2:N 3:N 1+3:N 3a+8:N 2+2:N 98+3:N",
  "1+d:N 1+7:N 4:N 6:N 3+2:N c6+40:N 20c+b5:O f+21:N 13+4a:O 3c+1ac:O 45+1a:O 1+91:O 19+26c:O",
  "1+153:O 100+296:O 1+69:O e5+6:O 4+3:N 7+7:O 7f:N 60+20:N 0+205:O 3+19:O 9+4:N 2:O 6:O 5+3:O",
  "59+2:N 5:O 5a:O c4+24:O 1bdc+40:O 5690+37:O 146+3:O 5f+4:N 0:O 0+a:N 0+2:O 1e+2:N 50+2:N",
  "e+22:O 66:O 79:N 3:N 4:N 19+2:N 1+4:O 0:N b+2:O 3a+4:O 4c+2:N 1a+12:N d:N 26+8:N 19+b:N",
  "2e+3:N 30:N 2+4:N 2+2:N 27:N 43+6:N 2+2:N 2+2:N c:N 8:N 2f:N 33:N 1+3:N 2+2:N 5+2:N 1:N",
  "2a+2:N 8:N 73+2:O 79:N 2:N 4:N 4f30:N 93+21:R 16b+12:O 40+3f:R 0+31:O 20+10:N 15+2:O 2c:R",
  "28d:O 3e+4d:O 3+11:O 5c:N e2:N 0+1b:E 7a+5:N 485+11c:R 3:O 0+e1:R 0+f:N 0+26:R 2+8:N 0+a5:R",
  "0+2:N 4+4b:R 3+7:O 0+1e4:R 0+4:N 8+a:A 6+50:R d0+1f:A 1+2a:R 1+2:N 0+99:R 0+b:N 0+31:R 0+4:N",
  "0+71:R a:N 36+f:N b+14:O a:N 2+2:N a+3:N 31+4:N 2+2:N 7:N 3d+3:N 24+5:N 1+8:N 3e:N c+2:N",
  "34+9:N a+4:N 2:N 5f+3:N 2:N 1+2:N 6:N a0:N 3+8:N 15+2:N 39+2:N 3:N 25+f:N c3+8:N 2+3:N 1:N",
  "17:N 54+6:N 1:N 4+2:N 1+2:N ee+4:N 6+2:N 1+2:N 1b+2:N 55+8:N 2:N 1+2:N 1f+d:O 3e:N 1:N 2+6:N",
  "1:N 65+3:N 2+4:N 1+5:N 103+9:N 1+2:N 100+2:N 1:N 4:N 90+8:N 4:N 20+6:N 2+2:N 28+6:N 2+4:N",
  "8:N 9+6:N 2+3:N 2e+d:N 1+2:N 196+e:N 54+16:N 2+7:N 1+2:N 1+2:N 7a+15:N 1:N 48+2:N 3:N 1:N",
  "15b+2:N e0+1d:O 4afe+5:N 3b+7:N 418:N 3f+4:N 4f:O 1:N 4cb8+2:N 1261+47:N 220+3:N 11+8:N",
  "2+7:N 1e+4:N 3b+59:O 0+3:N 0:O ba+57:O 6a9+37:N 4+32:N 8:N e:N 16+15:N 550+2b:N 105+7:N",
  "177:N 3d+4:N f:O 500+d0:R 0+7:N 4b+22:R 0+7:N 0+3f3:R 1b2+240:O 3d+3:O 3d:O b2+478:O 5+97:O",
  "c+59:O 7+d2:O 4e+154:O c+15:O 3+f:O 9+1d:O 3+b:O 5+6:O a+a:O 6+8:O 8+7:O 9+cb:O"]

/-- How letters join: to the left `L`, to the right `R`, on both sides `D`, or through `T`. -/
def joiningRuns : List String := [
  "300+70:T 113+7:T 107+2d:T 1:T 1+2:T 1+2:T 1:T 48+b:T 5:D 1+4:R 0:D 0:R 0:D 0:R 0+5:D 0+4:R",
  "0+d:D 1+7:D 0:R 0+2:D 0+15:T e+2:D 0:T 0+3:R 5+f:D 0+12:R 0+26:D 0:R 0+2:D 0+9:R 0:D 0:R 0:D",
  "0:R 0+2:D 0+2:R 1:R 0+7:T 2+6:T 2+2:T 1+4:T 0+2:R a+3:D 2:D 10:R 0:T 0+3:D 0+5:R 0+4:D 0:R",
  "0+9:D 0:R 0:D 0:R 0:D 0:R 0+2:D 0:R 0+1b:T 2:R 0+b:D 0+3:R 0+f:D 0+2:R 0+4:D 0:R 0:D 0+2:R",
  "0+3:D 0+2:R 0+6:D 26+b:T 19+21:D 0+9:T 9:T 18+4:T 1+9:T 1+3:T 1+5:T 12:R 0+5:D 0+2:R 0:D 0:R",
  "0+a:D 0:R 0:D 0+3:R 0+3:T 4:D 1+4:D 1:R 0:D 0+1a:R 3:D 2+5:D 0:R 0:D 7+9:T 0+a:D 0+3:R 1:R",
  "0+2:D 0+2:R 0+6:D 0:R 0+f:D 1+39:T 37:T 1:T 4+8:T 4:T 3+7:T a+2:T 1d:T 3a:T 4+4:T 8:T 14+2:T",
  "1a+5:T 39:T 4+11:T 1e+2:T 3:T b+2:T 39:T 4+8:T 4:T 14+2:T 16+8:T 3a:T 2:T 1+4:T 8+a:T b+2:T",
  "1e:T 3d:T c:T 32:T 3:T 37:T 1+3:T 5+11:T b+2:T 1d:T 3a:T 2:T 6:T 5+2:T 14+2:T 1c+2:T 39+2:T",
  "4+4:T 8:T 14+2:T 1d:T 48:T 7+5:T 5a:T 2+7:T c+8:T 62:T 2+9:T b+7:T 49+2:T 1b:T 1:T 1:T",
  "37+e:T 1+5:T 1+2:T 5+30:T 9:T 66+4:T 1+6:T 1+2:T 2+2:T 19+2:T 4+3:T 10+4:T d:T 2+2:T 6:T f:T",
  "2bf+3:T 3b2+3:T 1d+2:T 1e+2:T 1e+2:T 43+7:T 8:T 2+b:T 9:T 29:D 18+59:D c+2:T 0+22:D 0:T 0:D",
  "75+3:T 4+2:T 9:T 6+3:T db+2:T 2:T 3a:T 1+9:T 1:T 2+8:T 6+d:T 30+54:T 30:T 1+5:T 1:T 5:T",
  "28+9:T c+2:T 20+4:T 2+2:T 1+3:T 38:T 1+2:T 3:T 1+3:T 3a+8:T 2+2:T 98+3:T 1+d:T 1+7:T 4:T 6:T",
  "3+2:T c6+40:T 2d0+21:T bfe+3:T 8d:T 60+20:T 22a+4:T 6b+2:T 75d4+4:T 1+a:T 20+2:T 50+2:T",
  "110:T 3:T 4:T 19+2:T 5:T 13+32:D 0:L 51+2:T 1a+12:T d:T 26+8:T 19+b:T 2e+3:T 30:T 2+4:T",
  "2+2:T 27:T 43+6:T 2+2:T 2+2:T c:T 8:T 2f:T 33:T 1+3:T 2+2:T 5+2:T 1:T 2a+2:T 8:T ee:T 2:T",
  "4:T 4f30:T 301+10:T 3cd:T e2:T 95+5:T 686+f:T 28+8:T 80+5:D 0:R 1:R 1+2:R 2:L 0+5:R 0+4:D",
  "0:L 0+5:D 0:R 0+3:D 0:R 2:R 0+2:T 4+4:D 0:R 90:D 0:R 0:D 0+3:R 0+3:D 0:R 0+2:D 0:R 0:D 0+2:R",
  "0:D 0:R 17+4:R 0+2:D 151:L 0+21:D 0:R 0:D 0+4:T 41+5:T 13d+2:T 15:R 0+2:D 1+2:D 32+6:T",
  "30+3:D 0:R 0+11:D 1+b:T 0+3:D 0:R 1b+4:D 0+2:R 0+c:D 0+4:T 2a:D 1+2:D 0+3:R 1:D 0+2:R 0+2:D",
  "0:R 0+2:D 1:D 0+2:R 0:D 4:R 0:D 0:L 35:T 36+f:T 29:T 2+2:T a+3:T 31+4:T 2+2:T 7:T 3d+3:T",
  "24+5:T 1+8:T 3e:T c+2:T 34+9:T a+4:T 2:T 5f+3:T 2:T 1+2:T 6:T 2:T 9d:T 3+8:T 15+2:T 39+2:T",
  "3:T 25+f:T 46+6:T d:T 1:T 1:T e+2:T 55+8:T 2+3:T 1:T 17:T 54+6:T 1:T 4+2:T 1+2:T ee+4:T",
  "6+2:T 1+2:T 1b+2:T 55+8:T 2:T 1+2:T 6a:T 1:T 2+6:T 1:T 65+3:T 2+4:T 1+5:T 103+9:T 1+2:T",
  "100+2:T 1:T 4:T 90+8:T 4:T 20+a:T 28+6:T 2+4:T 8:T 9+6:T 2+3:T 2e+d:T 1+2:T c6:T 1+3:T 1:T",
  "c9+e:T 1:T 52+16:T 2+7:T 1+2:T 1+2:T 7a+15:T 1:T 48+2:T 3:T 1:T 15b+2:T b+2:T 34+5:T 5:T 1:T",
  "17:T 14e5:T 6+f:T 2cc8+c:T 3+3:T 9c0+5:T 3b+7:T 418:T 3f+4:T 51:T 4cb8+2:T 1261+47:T 220+3:T",
  "11+8:T 2+7:T 1e+4:T 94+3:T 7bb+37:T 4+32:T 8:T e:T 16+15:T 550+90:T a0+7:T 177:T 3d+4:T",
  "1fc+4:T fe+2:T f3:T 2:T 7+2:T 5:T 1da+7:T 4b+22:D 0+8:T"]

/-- The characters that stand for two: behind an equals sign the second one, then each first one
with the character that stands for both. -/
def pairRuns : List String := [
  "=300 61:e0 65:e8 69:ec 6e:1f9 6f:f2 75:f9 77:1e81 79:1ef3 e2:1ea7 ea:1ec1 f4:1ed3 fc:1dc",
  "103:1eb1 113:1e15 14d:1e51 1a1:1edd 1b0:1eeb 3b1:1f70 3b5:1f72 3b7:1f74 3b9:1f76 3bf:1f78",
  "3c5:1f7a 3c9:1f7c 3ca:1fd2 3cb:1fe2 435:450 438:45d 1f00:1f02 1f01:1f03 1f10:1f12 1f11:1f13",
  "1f20:1f22 1f21:1f23 1f30:1f32 1f31:1f33 1f40:1f42 1f41:1f43 1f50:1f52 1f51:1f53 1f60:1f62",
  "1f61:1f63 =301 61:e1 63:107 65:e9 67:1f5 69:ed 6b:1e31 6c:13a 6d:1e3f 6e:144 6f:f3 70:1e55",
  "72:155 73:15b 75:fa 77:1e83 79:fd 7a:17a e2:1ea5 e5:1fb e6:1fd e7:1e09 ea:1ebf ef:1e2f",
  "f4:1ed1 f5:1e4d f8:1ff fc:1d8 103:1eaf 113:1e17 14d:1e53 169:1e79 1a1:1edb 1b0:1ee9 3b1:3ac",
  "3b5:3ad 3b7:3ae 3b9:3af 3bf:3cc 3c5:3cd 3c9:3ce 3ca:390 3cb:3b0 433:453 43a:45c 1f00:1f04",
  "1f01:1f05 1f10:1f14 1f11:1f15 1f20:1f24 1f21:1f25 1f30:1f34 1f31:1f35 1f40:1f44 1f41:1f45",
  "1f50:1f54 1f51:1f55 1f60:1f64 1f61:1f65 =302 61:e2 63:109 65:ea 67:11d 68:125 69:ee 6a:135",
  "6f:f4 73:15d 75:fb 77:175 79:177 7a:1e91 1ea1:1ead 1eb9:1ec7 1ecd:1ed9 =303 61:e3 65:1ebd",
  "69:129 6e:f1 6f:f5 75:169 76:1e7d 79:1ef9 e2:1eab ea:1ec5 f4:1ed7 103:1eb5 1a1:1ee1 1b0:1eef",
  "=304 61:101 65:113 67:1e21 69:12b 6f:14d 75:16b 79:233 e4:1df e6:1e3 f5:22d f6:22b fc:1d6",
  "1eb:1ed 227:1e1 22f:231 3b1:1fb1 3b9:1fd1 3c5:1fe1 438:4e3 443:4ef 1e37:1e39 1e5b:1e5d =306",
  "61:103 65:115 67:11f 69:12d 6f:14f 75:16d 229:1e1d 3b1:1fb0 3b9:1fd0 3c5:1fe0 430:4d1",
  "435:4d7 436:4c2 438:439 443:45e 1ea1:1eb7 =307 61:227 62:1e03 63:10b 64:1e0b 65:117 66:1e1f",
  "67:121 68:1e23 6d:1e41 6e:1e45 6f:22f 70:1e57 72:1e59 73:1e61 74:1e6b 77:1e87 78:1e8b",
  "79:1e8f 7a:17c 15b:1e65 161:1e67 1e63:1e69 =308 61:e4 65:eb 68:1e27 69:ef 6f:f6 74:1e97",
  "75:fc 77:1e85 78:1e8d 79:ff f5:1e4f 16b:1e7b 3b9:3ca 3c5:3cb 430:4d3 435:451 436:4dd 437:4df",
  "438:4e5 43e:4e7 443:4f1 447:4f5 44b:4f9 44d:4ed 456:457 4d9:4db 4e9:4eb =309 61:1ea3 65:1ebb",
  "69:1ec9 6f:1ecf 75:1ee7 79:1ef7 e2:1ea9 ea:1ec3 f4:1ed5 103:1eb3 1a1:1edf 1b0:1eed =30a",
  "61:e5 75:16f 77:1e98 79:1e99 =30b 6f:151 75:171 443:4f3 =30c 61:1ce 63:10d 64:10f 65:11b",
  "67:1e7 68:21f 69:1d0 6a:1f0 6b:1e9 6c:13e 6e:148 6f:1d2 72:159 73:161 74:165 75:1d4 7a:17e",
  "fc:1da 292:1ef =30f 61:201 65:205 69:209 6f:20d 72:211 75:215 475:477 =311 61:203 65:207",
  "69:20b 6f:20f 72:213 75:217 =313 3b1:1f00 3b5:1f10 3b7:1f20 3b9:1f30 3bf:1f40 3c1:1fe4",
  "3c5:1f50 3c9:1f60 =314 3b1:1f01 3b5:1f11 3b7:1f21 3b9:1f31 3bf:1f41 3c1:1fe5 3c5:1f51",
  "3c9:1f61 =31b 6f:1a1 75:1b0 =323 61:1ea1 62:1e05 64:1e0d 65:1eb9 68:1e25 69:1ecb 6b:1e33",
  "6c:1e37 6d:1e43 6e:1e47 6f:1ecd 72:1e5b 73:1e63 74:1e6d 75:1ee5 76:1e7f 77:1e89 79:1ef5",
  "7a:1e93 1a1:1ee3 1b0:1ef1 =324 75:1e73 =325 61:1e01 =326 73:219 74:21b =327 63:e7 64:1e11",
  "65:229 67:123 68:1e29 6b:137 6c:13c 6e:146 72:157 73:15f 74:163 =328 61:105 65:119 69:12f",
  "6f:1eb 75:173 =32d 64:1e13 65:1e19 6c:1e3d 6e:1e4b 74:1e71 75:1e77 =32e 68:1e2b =330 65:1e1b",
  "69:1e2d 75:1e75 =331 62:1e07 64:1e0f 68:1e96 6b:1e35 6c:1e3b 6e:1e49 72:1e5f 74:1e6f 7a:1e95",
  "=338 3c:226e 3d:2260 3e:226f 2190:219a 2192:219b 2194:21ae 21d0:21cd 21d2:21cf 21d4:21ce",
  "2203:2204 2208:2209 220b:220c 2223:2224 2225:2226 223c:2241 2243:2244 2245:2247 2248:2249",
  "224d:226d 2261:2262 2264:2270 2265:2271 2272:2274 2273:2275 2276:2278 2277:2279 227a:2280",
  "227b:2281 227c:22e0 227d:22e1 2282:2284 2283:2285 2286:2288 2287:2289 2291:22e2 2292:22e3",
  "22a2:22ac 22a8:22ad 22a9:22ae 22ab:22af 22b2:22ea 22b3:22eb 22b4:22ec 22b5:22ed =342",
  "3b1:1fb6 3b7:1fc6 3b9:1fd6 3c5:1fe6 3c9:1ff6 3ca:1fd7 3cb:1fe7 1f00:1f06 1f01:1f07 1f20:1f26",
  "1f21:1f27 1f30:1f36 1f31:1f37 1f50:1f56 1f51:1f57 1f60:1f66 1f61:1f67 =653 627:622 =654",
  "627:623 648:624 64a:626 6c1:6c2 6d2:6d3 6d5:6c0 =655 627:625 =93c 928:929 930:931 933:934",
  "=9be 9c7:9cb =9d7 9c7:9cc =b3e b47:b4b =b56 b47:b48 =b57 b47:b4c =bbe bc6:bca bc7:bcb =bd7",
  "b92:b94 bc6:bcc =c56 c46:c48 =cc2 cc6:cca =cd5 cbf:cc0 cc6:cc7 cca:ccb =cd6 cc6:cc8 =d3e",
  "d46:d4a d47:d4b =d57 d46:d4c =dca dd9:dda ddc:ddd =dcf dd9:ddc =ddf dd9:dde =102e 1025:1026",
  "=1b35 1b05:1b06 1b07:1b08 1b09:1b0a 1b0b:1b0c 1b0d:1b0e 1b11:1b12 1b3a:1b3b 1b3c:1b3d",
  "1b3e:1b40 1b3f:1b41 1b42:1b43 =3099 3046:3094 304b:304c 304d:304e 304f:3050 3051:3052",
  "3053:3054 3055:3056 3057:3058 3059:305a 305b:305c 305d:305e 305f:3060 3061:3062 3064:3065",
  "3066:3067 3068:3069 306f:3070 3072:3073 3075:3076 3078:3079 307b:307c 309d:309e 30a6:30f4",
  "30ab:30ac 30ad:30ae 30af:30b0 30b1:30b2 30b3:30b4 30b5:30b6 30b7:30b8 30b9:30ba 30bb:30bc",
  "30bd:30be 30bf:30c0 30c1:30c2 30c4:30c5 30c6:30c7 30c8:30c9 30cf:30d0 30d2:30d3 30d5:30d6",
  "30d8:30d9 30db:30dc 30ef:30f7 30f0:30f8 30f1:30f9 30f2:30fa 30fd:30fe =309a 306f:3071",
  "3072:3074 3075:3077 3078:307a 307b:307d 30cf:30d1 30d2:30d4 30d5:30d7 30d8:30da 30db:30dd",
  "=110ba 11099:1109a 1109b:1109c 110a5:110ab =11127 11131:1112e 11132:1112f =1133e 11347:1134b",
  "=11357 11347:1134c =114b0 114b9:114bc =114ba 114b9:114bb =114bd 114b9:114be =115af",
  "115b8:115ba 115b9:115bb =11930 11935:11938"]

end BrokerControl.International
