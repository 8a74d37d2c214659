/-!
# What becomes of a character in a domain name

The characters from U+0080 on, as runs in their order. A run is a letter, the length of the run in
hexadecimal unless it is one, and the characters that replace it, if any. `V` characters stay, `X`
characters may not stand in a name, `I` characters are left out, `P` runs are pairs of which the
second stays and replaces the first, an `S` run is replaced by a run that starts with the given
character, and an `M` character is replaced by all the given ones. Below U+0080 only capital
letters change.
-/

namespace BrokerControl.International

/-- The runs in their order, in lines; a space stands between two runs of a line. -/
def mappingRuns : List String := [
  "X20 S:20 V7 M:20,308 V S:61 V2 I V M:20,304 V2 S2:32 M:20,301 S:3bc V2 M:20,327 S:31 S:6f V",
  "M:31,2044,34 M:31,2044,32 M:33,2044,34 V S17:e0 V S7:f8 V21 P30 M:69,307 V M:69,6a M:69,6a",
  "P4 V P6 M:6c,b7 M:6c,b7 P8 M:2bc,6e P2e S:ff P6 S:73 V S:253 P4 S:254 P2 S2:256 P2 V S:1dd",
  "S:259 S:25b P2 S:260 S:263 V S:269 S:268 P2 V2 S:26f S:272 V S:275 P6 S:280 P2 S:283 V2 P2",
  "S:288 P2 S2:28a P4 S:292 P2 V2 P2 V6 M:64,17e M:64,17e M:64,17e M:6c,6a M:6c,6a M:6c,6a",
  "M:6e,6a M:6e,6a M:6e,6a P10 V P12 V M:64,7a M:64,7a M:64,7a P2 S:195 S:1bf P28 S:19e V P12",
  "V6 S:2c65 P2 S:19a S:2c66 V2 P2 S:180 S:289 S:28c Pa V60 S:68 S:266 S:6a S:72 S:279 S:27b",
  "S:281 S:77 S:79 V1f M:20,306 M:20,307 M:20,30a M:20,328 M:20,303 M:20,30b V2 S:263 S:6c S:73",
  "S:78 S:295 V5b S2:300 V S:313 M:308,301 S:3b9 V9 I V20 P4 S:2b9 V P2 X2 M:20,3b9 V3 S:3b",
  "S:3f3 X4 M:20,301 M:20,308,301 S:3ac S:b7 S3:3ad X S:3cc X S2:3cd V S11:3b1 X S9:3c3 V23",
  "S:3d7 S:3b2 S:3b8 S:3c5 S:3cd S:3cb S:3c6 S:3c0 V P18 S:3ba S:3c1 S:3c3 V S:3b8 S:3b5 V P2",
  "S:3c3 P2 V S3:37b S10:450 S20:430 V30 P22 V8 P36 S:4cf Pe V P60 X S26:561 X2 V2e M:565,582",
  "V3 X2 V3 X V37 X8 V1b X4 V6 X11 V16 X V58 M:627,674 M:648,674 M:6c7,674 M:64a,674 V64 X V30",
  "X2 V3b X2 V65 Xe V3b X2 V31 X2 Vf X V1c X2 V X Vb X5 V20 X7 V4b X V75 M:915,93c M:916,93c",
  "M:917,93c M:91c,93c M:921,93c M:922,93c M:92b,93c M:92f,93c V24 X V8 X2 V2 X2 V16 X V7 X V",
  "X3 V4 X2 V9 X2 V2 X2 V4 X8 V X4 M:9a1,9bc M:9a2,9bc X M:9af,9bc V4 X2 V19 X2 V3 X V6 X4 V2",
  "X2 V16 X V7 X V M:a32,a3c X V M:a38,a3c X V2 X2 V X V5 X4 V2 X2 V3 X3 V X7 M:a16,a3c",
  "M:a17,a3c M:a1c,a3c V X M:a2b,a3c X7 V11 Xa V3 X V9 X V3 X V16 X V7 X V2 X V5 X2 Va X V3 X",
  "V3 X2 V Xf V4 X2 Vc X7 V7 X V3 X V8 X2 V2 X2 V16 X V7 X V2 X V5 X2 V9 X2 V2 X2 V3 X7 V3 X4",
  "M:b21,b3c M:b22,b3c X V5 X2 V12 Xa V2 X V6 X3 V3 X V4 X3 V2 X V X V2 X3 V2 X3 V3 X3 Vc X4 V5",
  "X3 V3 X V4 X2 V X6 V Xe V15 X5 Vd X V3 X V17 X V10 X2 V9 X V3 X V4 X7 V2 X V3 X V2 X2 V4 X2",
  "Va X7 V16 X V3 X V17 X Va X V5 X2 V9 X V3 X V4 X7 V2 X5 V3 X V4 X2 Va X V3 Xc Vd X V3 X V33",
  "X V3 X V6 X4 V10 X2 V1a X V3 X V12 X3 V18 X V9 X V X2 V7 X3 V X4 V6 X V X V8 X6 Va X2 V3 Xc",
  "V32 M:e4d,e32 V7 X4 V1d X25 V2 X V X V5 X V18 X V X Vc M:ecd,eb2 Va X2 V5 X V X V7 X Va X2",
  "M:eab,e99 M:eab,ea1 V2 X20 Vc S:f0b V36 M:f42,fb7 V4 X V4 M:f4c,fb7 V4 M:f51,fb7 V4",
  "M:f56,fb7 V4 M:f5b,fb7 Vc M:f40,fb5 V3 X4 V2 M:f71,f72 V M:f71,f74 M:fb2,f80 M:fb2,f71,f80",
  "M:fb3,f80 M:fb3,f71,f80 V7 M:f71,f80 V11 M:f92,fb7 V4 X V4 M:f9c,fb7 V4 M:fa1,fb7 V4",
  "M:fa6,fb7 V4 M:fab,fb7 Vc M:f90,fb5 V3 X Vf X Vd X25 Va0 S26:2d00 X S:2d27 X5 S:2d2d X2 V2c",
  "S:10dc V62 I2 Ve8 X V4 X2 V7 X V X V4 X2 V29 X V4 X2 V21 X V4 X2 V7 X V X V4 X2 Vf X V39 X",
  "V4 X2 V43 X2 V20 X3 V1a X6 V56 X2 S6:13f0 X2 V280 X V1c X3 V59 X7 V16 X9 V18 X9 V14 Xc Vd X",
  "V3 X V2 Xc V34 I2 V28 X2 Va X6 Va X6 Vb I5 Va X6 V59 X7 V2b X5 V46 Xa V1f X Vc X4 Vc X4 V X3",
  "V2a X2 V5 Xb V2c X4 V1a X6 Vb X3 V3e X2 V41 X V1d X2 Vb X6 Va X6 Ve X2 V2e X2 Vc X14 V4d X",
  "Va6 X8 V3c X3 Vf X3 V33 S:432 S:434 S:43e S2:441 S:442 S:44a S:463 S:a64b P2 X5 S2b:10d0 X2",
  "S3:10fd V8 X8 V2b X5 V2c S:61 S:e6 S:62 V S2:64 S:1dd S8:67 V S:6f S:223 S:70 S:72 S2:74",
  "S:77 S:61 S2:250 S:1d02 S:62 S2:64 S:259 S2:25b S:67 V S:6b S:6d S:14b S:6f S:254 S2:1d16",
  "S:70 S2:74 S:1d1d S:26f S:76 S:1d25 S3:3b2 S2:3c6 S:69 S:72 S2:75 S2:3b2 S:3c1 S2:3c6 Vd",
  "S:43d V22 S:252 S:63 S:255 S:f0 S:25c S:66 S:25f S:261 S:265 S3:268 S:1d7b S:29d S:26d",
  "S:1d85 S:29f S:271 S:270 S4:272 S:278 S2:282 S:1ab S2:289 S:1d1c S2:28b S:7a S3:290 S:3b8",
  "V40 P96 V4 M:61,2be S:1e61 V2 S:df V P60 V8 S8:1f00 V6 X2 S6:1f10 X2 V8 S8:1f20 V8 S8:1f30",
  "V6 X2 S6:1f40 X2 V8 X S:1f51 X S:1f53 X S:1f55 X S:1f57 V8 S8:1f60 V S:3ac V S:3ad V S:3ae V",
  "S:3af V S:3cc V S:3cd V S:3ce X2 M:1f00,3b9 M:1f01,3b9 M:1f02,3b9 M:1f03,3b9 M:1f04,3b9",
  "M:1f05,3b9 M:1f06,3b9 M:1f07,3b9 M:1f00,3b9 M:1f01,3b9 M:1f02,3b9 M:1f03,3b9 M:1f04,3b9",
  "M:1f05,3b9 M:1f06,3b9 M:1f07,3b9 M:1f20,3b9 M:1f21,3b9 M:1f22,3b9 M:1f23,3b9 M:1f24,3b9",
  "M:1f25,3b9 M:1f26,3b9 M:1f27,3b9 M:1f20,3b9 M:1f21,3b9 M:1f22,3b9 M:1f23,3b9 M:1f24,3b9",
  "M:1f25,3b9 M:1f26,3b9 M:1f27,3b9 M:1f60,3b9 M:1f61,3b9 M:1f62,3b9 M:1f63,3b9 M:1f64,3b9",
  "M:1f65,3b9 M:1f66,3b9 M:1f67,3b9 M:1f60,3b9 M:1f61,3b9 M:1f62,3b9 M:1f63,3b9 M:1f64,3b9",
  "M:1f65,3b9 M:1f66,3b9 M:1f67,3b9 V2 M:1f70,3b9 M:3b1,3b9 M:3ac,3b9 X V M:1fb6,3b9 S2:1fb0",
  "S:1f70 S:3ac M:3b1,3b9 M:20,313 S:3b9 M:20,313 M:20,342 M:20,308,342 M:1f74,3b9 M:3b7,3b9",
  "M:3ae,3b9 X V M:1fc6,3b9 S:1f72 S:3ad S:1f74 S:3ae M:3b7,3b9 M:20,313,300 M:20,313,301",
  "M:20,313,342 V3 S:390 X2 V2 S2:1fd0 S:1f76 S:3af X M:20,314,300 M:20,314,301 M:20,314,342 V3",
  "S:3b0 V4 S2:1fe0 S:1f7a S:3cd S:1fe5 M:20,308,300 M:20,308,301 S:60 X2 M:1f7c,3b9 M:3c9,3b9",
  "M:3ce,3b9 X V M:1ff6,3b9 S:1f78 S:3cc S:1f7c S:3ce M:3c9,3b9 M:20,301 M:20,314 X S:20 S:20",
  "S:20 S:20 S:20 S:20 S:20 S:20 S:20 S:20 S:20 I V2 X2 V S:2010 V5 M:20,333 Vc X3 V X7 S:20 V3",
  "M:2032,2032 M:2032,2032,2032 V M:2035,2035 M:2035,2035,2035 V4 M:21,21 V M:20,305 V8 M:3f,3f",
  "M:3f,21 M:21,3f Vd M:2032,2032,2032,2032 V7 S:20 I5 X5 I6 S:30 S:69 X2 S6:34 S:2b S:2212",
  "S:3d S2:28 S:6e Sa:30 S:2b S:2212 S:3d S2:28 X S:61 S:65 S:6f S:78 S:259 S:68 S4:6b S:70",
  "S2:73 X3 V8 M:72,73 V19 Xe V21 Xf M:61,2f,63 M:61,2f,73 S:63 M:b0,63 V M:63,2f,6f M:63,2f,75",
  "S:25b V M:b0,66 S2:67 S:68 S:68 S:68 S:127 S:69 S:69 S:6c S:6c V S:6e M:6e,6f V2 S3:70 S:72",
  "S:72 V2 M:73,6d M:74,65,6c M:74,6d V S:7a V S:3c9 V S:7a V S:6b S:e5 S2:62 V S:65 S2:65",
  "S:214e S:6d S:6f S4:5d0 S:69 V M:66,61,78 S:3c0 S:3b3 S:3b3 S:3c0 S:2211 V4 S:64 S2:64 S2:69",
  "V6 M:31,2044,37 M:31,2044,39 M:31,2044,31,30 M:31,2044,33 M:32,2044,33 M:31,2044,35",
  "M:32,2044,35 M:33,2044,35 M:34,2044,35 M:31,2044,36 M:35,2044,36 M:31,2044,38 M:33,2044,38",
  "M:35,2044,38 M:37,2044,38 M:31,2044 S:69 M:69,69 M:69,69,69 M:69,76 S:76 M:76,69 M:76,69,69",
  "M:76,69,69,69 M:69,78 S:78 M:78,69 M:78,69,69 S:6c S2:63 S:6d S:69 M:69,69 M:69,69,69",
  "M:69,76 S:76 M:76,69 M:76,69,69 M:76,69,69,69 M:69,78 S:78 M:78,69 M:78,69,69 S:6c S2:63",
  "S:6d V3 P2 V4 M:30,2044,33 V2 X4 V9c M:222b,222b M:222b,222b,222b V M:222e,222e",
  "M:222e,222e,222e Vf8 S2:3008 Vff X16 Vb X15 S9:31 M:31,30 M:31,31 M:31,32 M:31,33 M:31,34",
  "M:31,35 M:31,36 M:31,37 M:31,38 M:31,39 M:32,30 M:28,31,29 M:28,32,29 M:28,33,29 M:28,34,29",
  "M:28,35,29 M:28,36,29 M:28,37,29 M:28,38,29 M:28,39,29 M:28,31,30,29 M:28,31,31,29",
  "M:28,31,32,29 M:28,31,33,29 M:28,31,34,29 M:28,31,35,29 M:28,31,36,29 M:28,31,37,29",
  "M:28,31,38,29 M:28,31,39,29 M:28,32,30,29 X14 M:28,61,29 M:28,62,29 M:28,63,29 M:28,64,29",
  "M:28,65,29 M:28,66,29 M:28,67,29 M:28,68,29 M:28,69,29 M:28,6a,29 M:28,6b,29 M:28,6c,29",
  "M:28,6d,29 M:28,6e,29 M:28,6f,29 M:28,70,29 M:28,71,29 M:28,72,29 M:28,73,29 M:28,74,29",
  "M:28,75,29 M:28,76,29 M:28,77,29 M:28,78,29 M:28,79,29 M:28,7a,29 S1a:61 S1a:61 S:30 V521",
  "M:222b,222b,222b,222b V67 M:3a,3a,3d M:3d,3d M:3d,3d,3d V65 M:2add,338 V97 X2 V8a S30:2c30",
  "V30 P2 S:26b S:1d7d S:27d V2 P6 S:251 S:271 S:250 S:252 V P2 V P2 V5 S:6a S:76 S2:23f P64 V7",
  "P4 V3 P2 X5 V2d X V X5 V X2 V38 X7 S:2d61 V Xe V18 X9 V7 X V7 X V7 X V7 X V7 X V7 X V7 X V7",
  "X V7e X22 V1a X V4 S:6bcd V53 S:9f9f Xc S:4e00 S:4e28 S:4e36 S:4e3f S:4e59 S:4e85 S:4e8c",
  "S:4ea0 S:4eba S:513f S:5165 S:516b S:5182 S:5196 S:51ab S:51e0 S:51f5 S:5200 S:529b S:52f9",
  "S:5315 S:531a S:5338 S:5341 S:535c S:5369 S:5382 S:53b6 S:53c8 S:53e3 S:56d7 S:571f S:58eb",
  "S:5902 S:590a S:5915 S:5927 S:5973 S:5b50 S:5b80 S:5bf8 S:5c0f S:5c22 S:5c38 S:5c6e S:5c71",
  "S:5ddb S:5de5 S:5df1 S:5dfe S:5e72 S:5e7a S:5e7f S:5ef4 S:5efe S:5f0b S:5f13 S:5f50 S:5f61",
  "S:5f73 S:5fc3 S:6208 S:6236 S:624b S:652f S:6534 S:6587 S:6597 S:65a4 S:65b9 S:65e0 S:65e5",
  "S:66f0 S:6708 S:6728 S:6b20 S:6b62 S:6b79 S:6bb3 S:6bcb S:6bd4 S:6bdb S:6c0f S:6c14 S:6c34",
  "S:706b S:722a S:7236 S:723b S:723f S:7247 S:7259 S:725b S:72ac S:7384 S:7389 S:74dc S:74e6",
  "S:7518 S:751f S:7528 S:7530 S:758b S:7592 S:7676 S:767d S:76ae S:76bf S:76ee S:77db S:77e2",
  "S:77f3 S:793a S:79b8 S:79be S:7a74 S:7acb S:7af9 S:7c73 S:7cf8 S:7f36 S:7f51 S:7f8a S:7fbd",
  "S:8001 S:800c S:8012 S:8033 S:807f S:8089 S:81e3 S:81ea S:81f3 S:81fc S:820c S:821b S:821f",
  "S:826e S:8272 S:8278 S:864d S:866b S:8840 S:884c S:8863 S:897e S:898b S:89d2 S:8a00 S:8c37",
  "S:8c46 S:8c55 S:8c78 S:8c9d S:8d64 S:8d70 S:8db3 S:8eab S:8eca S:8f9b S:8fb0 S:8fb5 S:9091",
  "S:9149 S:91c6 S:91cc S:91d1 S:9577 S:9580 S:961c S:96b6 S:96b9 S:96e8 S:9751 S:975e S:9762",
  "S:9769 S:97cb S:97ed S:97f3 S:9801 S:98a8 S:98db S:98df S:9996 S:9999 S:99ac S:9aa8 S:9ad8",
  "S:9adf S:9b25 S:9b2f S:9b32 S:9b3c S:9b5a S:9ce5 S:9e75 S:9e7f S:9ea5 S:9ebb S:9ec3 S:9ecd",
  "S:9ed1 S:9ef9 S:9efd S:9f0e S:9f13 S:9f20 S:9f3b S:9f4a S:9f52 S:9f8d S:9f9c S:9fa0 X2a S:20",
  "V S:2e V33 S:3012 V S:5341 S2:5344 V5 X V56 X2 V2 M:20,3099 M:20,309a V2 M:3088,308a V5f",
  "M:30b3,30c8 X5 V2b X S2:1100 S:11aa S:1102 S2:11ac S3:1103 S6:11b0 S:111a S3:1106 S:1121",
  "Sa:1109 S15:1161 I S2:1114 S2:11c7 S:11cc S:11ce S:11d3 S:11d7 S:11d9 S:111c S:11dd S:11df",
  "S2:111d S:1120 S2:1122 S:1127 S:1129 S5:112b S:1132 S:1136 S:1140 S:1147 S:114c S2:11f1",
  "S3:1157 S2:1184 S:1188 S2:1191 S:1194 S:119e S:11a1 X V2 S:4e00 S:4e8c S:4e09 S:56db S:4e0a",
  "S:4e2d S:4e0b S:7532 S:4e59 S:4e19 S:4e01 S:5929 S:5730 S:4eba V46 Xa V10 M:28,1100,29",
  "M:28,1102,29 M:28,1103,29 M:28,1105,29 M:28,1106,29 M:28,1107,29 M:28,1109,29 M:28,110b,29",
  "M:28,110c,29 M:28,110e,29 M:28,110f,29 M:28,1110,29 M:28,1111,29 M:28,1112,29 M:28,ac00,29",
  "M:28,b098,29 M:28,b2e4,29 M:28,b77c,29 M:28,b9c8,29 M:28,bc14,29 M:28,c0ac,29 M:28,c544,29",
  "M:28,c790,29 M:28,cc28,29 M:28,ce74,29 M:28,d0c0,29 M:28,d30c,29 M:28,d558,29 M:28,c8fc,29",
  "M:28,c624,c804,29 M:28,c624,d6c4,29 X M:28,4e00,29 M:28,4e8c,29 M:28,4e09,29 M:28,56db,29",
  "M:28,4e94,29 M:28,516d,29 M:28,4e03,29 M:28,516b,29 M:28,4e5d,29 M:28,5341,29 M:28,6708,29",
  "M:28,706b,29 M:28,6c34,29 M:28,6728,29 M:28,91d1,29 M:28,571f,29 M:28,65e5,29 M:28,682a,29",
  "M:28,6709,29 M:28,793e,29 M:28,540d,29 M:28,7279,29 M:28,8ca1,29 M:28,795d,29 M:28,52b4,29",
  "M:28,4ee3,29 M:28,547c,29 M:28,5b66,29 M:28,76e3,29 M:28,4f01,29 M:28,8cc7,29 M:28,5354,29",
  "M:28,796d,29 M:28,4f11,29 M:28,81ea,29 M:28,81f3,29 S:554f S:5e7c S:6587 S:7b8f V8",
  "M:70,74,65 M:32,31 M:32,32 M:32,33 M:32,34 M:32,35 M:32,36 M:32,37 M:32,38 M:32,39 M:33,30",
  "M:33,31 M:33,32 M:33,33 M:33,34 M:33,35 S:1100 S2:1102 S3:1105 S:1109 S2:110b S5:110e S:ac00",
  "S:b098 S:b2e4 S:b77c S:b9c8 S:bc14 S:c0ac S:c544 S:c790 S:cc28 S:ce74 S:d0c0 S:d30c S:d558",
  "M:cc38,ace0 M:c8fc,c758 S:c6b0 V S:4e00 S:4e8c S:4e09 S:56db S:4e94 S:516d S:4e03 S:516b",
  "S:4e5d S:5341 S:6708 S:706b S:6c34 S:6728 S:91d1 S:571f S:65e5 S:682a S:6709 S:793e S:540d",
  "S:7279 S:8ca1 S:795d S:52b4 S:79d8 S:7537 S:5973 S:9069 S:512a S:5370 S:6ce8 S:9805 S:4f11",
  "S:5199 S:6b63 S:4e0a S:4e2d S:4e0b S:5de6 S:53f3 S:533b S:5b97 S:5b66 S:76e3 S:4f01 S:8cc7",
  "S:5354 S:591c M:33,36 M:33,37 M:33,38 M:33,39 M:34,30 M:34,31 M:34,32 M:34,33 M:34,34",
  "M:34,35 M:34,36 M:34,37 M:34,38 M:34,39 M:35,30 M:31,6708 M:32,6708 M:33,6708 M:34,6708",
  "M:35,6708 M:36,6708 M:37,6708 M:38,6708 M:39,6708 M:31,30,6708 M:31,31,6708 M:31,32,6708",
  "M:68,67 M:65,72,67 M:65,76 M:6c,74,64 S:30a2 S:30a4 S:30a6 S:30a8 S2:30aa S:30ad S:30af",
  "S:30b1 S:30b3 S:30b5 S:30b7 S:30b9 S:30bb S:30bd S:30bf S:30c1 S:30c4 S:30c6 S:30c8 S6:30ca",
  "S:30d2 S:30d5 S:30d8 S:30db S5:30de S:30e4 S:30e6 S6:30e8 S4:30ef M:4ee4,548c",
  "M:30a2,30d1,30fc,30c8 M:30a2,30eb,30d5,30a1 M:30a2,30f3,30da,30a2 M:30a2,30fc,30eb",
  "M:30a4,30cb,30f3,30b0 M:30a4,30f3,30c1 M:30a6,30a9,30f3 M:30a8,30b9,30af,30fc,30c9",
  "M:30a8,30fc,30ab,30fc M:30aa,30f3,30b9 M:30aa,30fc,30e0 M:30ab,30a4,30ea",
  "M:30ab,30e9,30c3,30c8 M:30ab,30ed,30ea,30fc M:30ac,30ed,30f3 M:30ac,30f3,30de M:30ae,30ac",
  "M:30ae,30cb,30fc M:30ad,30e5,30ea,30fc M:30ae,30eb,30c0,30fc M:30ad,30ed",
  "M:30ad,30ed,30b0,30e9,30e0 M:30ad,30ed,30e1,30fc,30c8,30eb M:30ad,30ed,30ef,30c3,30c8",
  "M:30b0,30e9,30e0 M:30b0,30e9,30e0,30c8,30f3 M:30af,30eb,30bc,30a4,30ed M:30af,30ed,30fc,30cd",
  "M:30b1,30fc,30b9 M:30b3,30eb,30ca M:30b3,30fc,30dd M:30b5,30a4,30af,30eb",
  "M:30b5,30f3,30c1,30fc,30e0 M:30b7,30ea,30f3,30b0 M:30bb,30f3,30c1 M:30bb,30f3,30c8",
  "M:30c0,30fc,30b9 M:30c7,30b7 M:30c9,30eb M:30c8,30f3 M:30ca,30ce M:30ce,30c3,30c8",
  "M:30cf,30a4,30c4 M:30d1,30fc,30bb,30f3,30c8 M:30d1,30fc,30c4 M:30d0,30fc,30ec,30eb",
  "M:30d4,30a2,30b9,30c8,30eb M:30d4,30af,30eb M:30d4,30b3 M:30d3,30eb",
  "M:30d5,30a1,30e9,30c3,30c9 M:30d5,30a3,30fc,30c8 M:30d6,30c3,30b7,30a7,30eb M:30d5,30e9,30f3",
  "M:30d8,30af,30bf,30fc,30eb M:30da,30bd M:30da,30cb,30d2 M:30d8,30eb,30c4 M:30da,30f3,30b9",
  "M:30da,30fc,30b8 M:30d9,30fc,30bf M:30dd,30a4,30f3,30c8 M:30dc,30eb,30c8 M:30db,30f3",
  "M:30dd,30f3,30c9 M:30db,30fc,30eb M:30db,30fc,30f3 M:30de,30a4,30af,30ed M:30de,30a4,30eb",
  "M:30de,30c3,30cf M:30de,30eb,30af M:30de,30f3,30b7,30e7,30f3 M:30df,30af,30ed,30f3",
  "M:30df,30ea M:30df,30ea,30d0,30fc,30eb M:30e1,30ac M:30e1,30ac,30c8,30f3",
  "M:30e1,30fc,30c8,30eb M:30e4,30fc,30c9 M:30e4,30fc,30eb M:30e6,30a2,30f3",
  "M:30ea,30c3,30c8,30eb M:30ea,30e9 M:30eb,30d4,30fc M:30eb,30fc,30d6,30eb M:30ec,30e0",
  "M:30ec,30f3,30c8,30b2,30f3 M:30ef,30c3,30c8 M:30,70b9 M:31,70b9 M:32,70b9 M:33,70b9",
  "M:34,70b9 M:35,70b9 M:36,70b9 M:37,70b9 M:38,70b9 M:39,70b9 M:31,30,70b9 M:31,31,70b9",
  "M:31,32,70b9 M:31,33,70b9 M:31,34,70b9 M:31,35,70b9 M:31,36,70b9 M:31,37,70b9 M:31,38,70b9",
  "M:31,39,70b9 M:32,30,70b9 M:32,31,70b9 M:32,32,70b9 M:32,33,70b9 M:32,34,70b9 M:68,70,61",
  "M:64,61 M:61,75 M:62,61,72 M:6f,76 M:70,63 M:64,6d M:64,6d,32 M:64,6d,33 M:69,75 M:5e73,6210",
  "M:662d,548c M:5927,6b63 M:660e,6cbb M:682a,5f0f,4f1a,793e M:70,61 M:6e,61 M:3bc,61 M:6d,61",
  "M:6b,61 M:6b,62 M:6d,62 M:67,62 M:63,61,6c M:6b,63,61,6c M:70,66 M:6e,66 M:3bc,66 M:3bc,67",
  "M:6d,67 M:6b,67 M:68,7a M:6b,68,7a M:6d,68,7a M:67,68,7a M:74,68,7a M:3bc,6c M:6d,6c M:64,6c",
  "M:6b,6c M:66,6d M:6e,6d M:3bc,6d M:6d,6d M:63,6d M:6b,6d M:6d,6d,32 M:63,6d,32 M:6d,32",
  "M:6b,6d,32 M:6d,6d,33 M:63,6d,33 M:6d,33 M:6b,6d,33 M:6d,2215,73 M:6d,2215,73,32 M:70,61",
  "M:6b,70,61 M:6d,70,61 M:67,70,61 M:72,61,64 M:72,61,64,2215,73 M:72,61,64,2215,73,32 M:70,73",
  "M:6e,73 M:3bc,73 M:6d,73 M:70,76 M:6e,76 M:3bc,76 M:6d,76 M:6b,76 M:6d,76 M:70,77 M:6e,77",
  "M:3bc,77 M:6d,77 M:6b,77 M:6d,77 M:6b,3c9 M:6d,3c9 X M:62,71 M:63,63 M:63,64 M:63,2215,6b,67",
  "X M:64,62 M:67,79 M:68,61 M:68,70 M:69,6e M:6b,6b M:6b,6d M:6b,74 M:6c,6d M:6c,6e M:6c,6f,67",
  "M:6c,78 M:6d,62 M:6d,69,6c M:6d,6f,6c M:70,68 X M:70,70,6d M:70,72 M:73,72 M:73,76 M:77,62",
  "M:76,2215,6d M:61,2215,6d M:31,65e5 M:32,65e5 M:33,65e5 M:34,65e5 M:35,65e5 M:36,65e5",
  "M:37,65e5 M:38,65e5 M:39,65e5 M:31,30,65e5 M:31,31,65e5 M:31,32,65e5 M:31,33,65e5",
  "M:31,34,65e5 M:31,35,65e5 M:31,36,65e5 M:31,37,65e5 M:31,38,65e5 M:31,39,65e5 M:32,30,65e5",
  "M:32,31,65e5 M:32,32,65e5 M:32,33,65e5 M:32,34,65e5 M:32,35,65e5 M:32,36,65e5 M:32,37,65e5",
  "M:32,38,65e5 M:32,39,65e5 M:33,30,65e5 M:33,31,65e5 M:67,61,6c V708d X3 V37 X9 V15c X14 P2e",
  "V12 P1c S:44a S:44c V5a X8 V22 Pe V2 P3e S:a76f V8 P4 S:1d79 Pa V3 P2 S:265 V2 P4 V2 P14",
  "S:266 S:25c S:261 S:26c S:26a V S:29e S:287 S:29d S:ab53 P10 S:a794 S:282 S:1d8e P4 S:264",
  "P10 S:19b X14 S:73 S:63 S:66 S:71 P2 V S:127 S:153 V33 X3 Va X6 V38 X8 V46 X8 Vc X6 V74 Xb",
  "V1e X3 V4e X Vb X4 V21 X V37 X9 Ve X2 Va X2 V67 X18 V1c Xa V6 X2 V6 X2 V6 X9 V7 X V7 X V2c",
  "S:a727 S:ab37 S:26b S:ab52 V9 S:28d V2 X4 S50:13a0 V2e X2 Va X6 V2ba4 Xc V17 X4 V31 X2104",
  "S:8c48 S:66f4 S:8eca S:8cc8 S:6ed1 S:4e32 S:53e5 S:9f9c S:9f9c S:5951 S:91d1 S:5587 S:5948",
  "S:61f6 S:7669 S:7f85 S:863f S:87ba S:88f8 S:908f S:6a02 S:6d1b S:70d9 S:73de S:843d S:916a",
  "S:99f1 S:4e82 S:5375 S:6b04 S:721b S:862d S:9e1e S:5d50 S:6feb S:85cd S:8964 S:62c9 S:81d8",
  "S:881f S:5eca S:6717 S:6d6a S:72fc S:90ce S:4f86 S:51b7 S:52de S:64c4 S:6ad3 S:7210 S:76e7",
  "S:8001 S:8606 S:865c S:8def S:9732 S:9b6f S:9dfa S:788c S:797f S:7da0 S:83c9 S:9304 S:9e7f",
  "S:8ad6 S:58df S:5f04 S:7c60 S:807e S:7262 S:78ca S:8cc2 S:96f7 S:58d8 S:5c62 S:6a13 S:6dda",
  "S:6f0f S:7d2f S:7e37 S:964b S:52d2 S:808b S:51dc S:51cc S:7a1c S:7dbe S:83f1 S:9675 S:8b80",
  "S:62cf S:6a02 S:8afe S:4e39 S:5be7 S:6012 S:7387 S:7570 S:5317 S:78fb S:4fbf S:5fa9 S:4e0d",
  "S:6ccc S:6578 S:7d22 S:53c3 S:585e S:7701 S:8449 S:8aaa S:6bba S:8fb0 S:6c88 S:62fe S:82e5",
  "S:63a0 S:7565 S:4eae S:5169 S:51c9 S:6881 S:7ce7 S:826f S:8ad2 S:91cf S:52f5 S:5442 S:5973",
  "S:5eec S:65c5 S:6ffe S:792a S:95ad S:9a6a S:9e97 S:9ece S:529b S:66c6 S:6b77 S:8f62 S:5e74",
  "S:6190 S:6200 S:649a S:6f23 S:7149 S:7489 S:79ca S:7df4 S:806f S:8f26 S:84ee S:9023 S:934a",
  "S:5217 S:52a3 S:54bd S:70c8 S:88c2 S:8aaa S:5ec9 S:5ff5 S:637b S:6bae S:7c3e S:7375 S:4ee4",
  "S:56f9 S:5be7 S:5dba S:601c S:73b2 S:7469 S:7f9a S:8046 S:9234 S:96f6 S:9748 S:9818 S:4f8b",
  "S:79ae S:91b4 S:96b8 S:60e1 S:4e86 S:50da S:5bee S:5c3f S:6599 S:6a02 S:71ce S:7642 S:84fc",
  "S:907c S:9f8d S:6688 S:962e S:5289 S:677b S:67f3 S:6d41 S:6e9c S:7409 S:7559 S:786b S:7d10",
  "S:985e S:516d S:622e S:9678 S:502b S:5d19 S:6dea S:8f2a S:5f8b S:6144 S:6817 S:7387 S:9686",
  "S:5229 S:540f S:5c65 S:6613 S:674e S:68a8 S:6ce5 S:7406 S:75e2 S:7f79 S:88cf S:88e1 S:91cc",
  "S:96e2 S:533f S:6eba S:541d S:71d0 S:7498 S:85fa S:96a3 S:9c57 S:9e9f S:6797 S:6dcb S:81e8",
  "S:7acb S:7b20 S:7c92 S:72c0 S:7099 S:8b58 S:4ec0 S:8336 S:523a S:5207 S:5ea6 S:62d3 S:7cd6",
  "S:5b85 S:6d1e S:66b4 S:8f3b S:884c S:964d S:898b S:5ed3 S:5140 S:55c0 V2 S:585a V S:6674 V2",
  "S:51de S:732a S:76ca S:793c S:795e S:7965 S:798f S:9756 S:7cbe S:7fbd V S:8612 V S:8af8 V2",
  "S:9038 S:90fd V3 S:98ef S:98fc S:9928 S:9db4 S:90de S:96b7 S:4fae S:50e7 S:514d S:52c9",
  "S:52e4 S:5351 S:559d S:5606 S:5668 S:5840 S:58a8 S:5c64 S:5c6e S:6094 S:6168 S:618e S:61f2",
  "S:654f S:65e2 S:6691 S:6885 S:6d77 S:6e1a S:6f22 S:716e S:722b S:7422 S:7891 S:793e S:7949",
  "S:7948 S:7950 S:7956 S:795d S2:798d S:7a40 S:7a81 S:7bc0 S:7df4 S:7e09 S:7e41 S:7f72 S:8005",
  "S:81ed S:8279 S:8279 S:8457 S:8910 S:8996 S:8b01 S:8b39 S:8cd3 S:8d08 S:8fb6 S:9038 S:96e3",
  "S:97ff S:983b S:6075 S:242ee S:8218 X2 S:4e26 S:51b5 S:5168 S:4f80 S:5145 S:5180 S:52c7",
  "S:52fa S:559d S:5555 S:5599 S:55e2 S:585a S:58b3 S:5944 S:5954 S:5a62 S:5b28 S:5ed2 S:5ed9",
  "S:5f69 S:5fad S:60d8 S:614e S:6108 S:618e S:6160 S:61f2 S:6234 S:63c4 S:641c S:6452 S:6556",
  "S:6674 S:6717 S:671b S:6756 S:6b79 S:6bba S:6d41 S:6edb S:6ecb S:6f22 S:701e S:716e S:77a7",
  "S:7235 S:72af S:732a S:7471 S:7506 S:753b S:761d S:761f S:76ca S:76db S:76f4 S:774a S:7740",
  "S:78cc S:7ab1 S:7bc0 S:7c7b S:7d5b S:7df4 S:7f3e S:8005 S:8352 S:83ef S:8779 S:8941 S:8986",
  "S:8996 S:8abf S:8af8 S:8acb S:8b01 S:8afe S:8aed S:8b39 S:8b8a S:8d08 S:8f38 S:9072 S:9199",
  "S:9276 S:967c S:96e3 S:9756 S:97db S:97ff S:980b S:983b S:9b12 S:9f9c S:2284a S:22844",
  "S:233d5 S:3b9d S:4018 S:4039 S:25249 S:25cd0 S:27ed3 S:9f43 S:9f8e X26 M:66,66 M:66,69",
  "M:66,6c M:66,66,69 M:66,66,6c M:73,74 M:73,74 Xc M:574,576 M:574,565 M:574,56b M:57e,576",
  "M:574,56d X5 M:5d9,5b4 V M:5f2,5b7 S:5e2 S:5d0 S2:5d3 S3:5db S:5e8 S:5ea S:2b M:5e9,5c1",
  "M:5e9,5c2 M:5e9,5bc,5c1 M:5e9,5bc,5c2 M:5d0,5b7 M:5d0,5b8 M:5d0,5bc M:5d1,5bc M:5d2,5bc",
  "M:5d3,5bc M:5d4,5bc M:5d5,5bc M:5d6,5bc X M:5d8,5bc M:5d9,5bc M:5da,5bc M:5db,5bc M:5dc,5bc",
  "X M:5de,5bc X M:5e0,5bc M:5e1,5bc X M:5e3,5bc M:5e4,5bc X M:5e6,5bc M:5e7,5bc M:5e8,5bc",
  "M:5e9,5bc M:5ea,5bc M:5d5,5b9 M:5d1,5bf M:5db,5bf M:5e4,5bf M:5d0,5dc S:671 S:671 S:67b",
  "S:67b S:67b S:67b S:67e S:67e S:67e S:67e S:680 S:680 S:680 S:680 S:67a S:67a S:67a S:67a",
  "S:67f S:67f S:67f S:67f S:679 S:679 S:679 S:679 S:6a4 S:6a4 S:6a4 S:6a4 S:6a6 S:6a6 S:6a6",
  "S:6a6 S:684 S:684 S:684 S:684 S:683 S:683 S:683 S:683 S:686 S:686 S:686 S2:686 S:687 S:687",
  "S:687 S:68d S:68d S:68c S:68c S:68e S:68e S:688 S:688 S:698 S:698 S:691 S:691 S:6a9 S:6a9",
  "S:6a9 S:6a9 S:6af S:6af S:6af S:6af S:6b3 S:6b3 S:6b3 S:6b3 S:6b1 S:6b1 S:6b1 S:6b1 S:6ba",
  "S2:6ba S:6bb S:6bb S:6bb S:6c0 S2:6c0 S:6c1 S:6c1 S:6c1 S:6be S:6be S:6be S:6be S:6d2 S2:6d2",
  "S:6d3 V21 S:6ad S:6ad S:6ad S:6ad S:6c7 S:6c7 S:6c6 S:6c6 S:6c8 S:6c8 M:6c7,674 S:6cb S:6cb",
  "S:6c5 S:6c5 S:6c9 S:6c9 S:6d0 S:6d0 S:6d0 S:6d0 S:649 S:649 M:626,627 M:626,627 M:626,6d5",
  "M:626,6d5 M:626,648 M:626,648 M:626,6c7 M:626,6c7 M:626,6c6 M:626,6c6 M:626,6c8 M:626,6c8",
  "M:626,6d0 M:626,6d0 M:626,6d0 M:626,649 M:626,649 M:626,649 S:6cc S:6cc S:6cc S:6cc",
  "M:626,62c M:626,62d M:626,645 M:626,649 M:626,64a M:628,62c M:628,62d M:628,62e M:628,645",
  "M:628,649 M:628,64a M:62a,62c M:62a,62d M:62a,62e M:62a,645 M:62a,649 M:62a,64a M:62b,62c",
  "M:62b,645 M:62b,649 M:62b,64a M:62c,62d M:62c,645 M:62d,62c M:62d,645 M:62e,62c M:62e,62d",
  "M:62e,645 M:633,62c M:633,62d M:633,62e M:633,645 M:635,62d M:635,645 M:636,62c M:636,62d",
  "M:636,62e M:636,645 M:637,62d M:637,645 M:638,645 M:639,62c M:639,645 M:63a,62c M:63a,645",
  "M:641,62c M:641,62d M:641,62e M:641,645 M:641,649 M:641,64a M:642,62d M:642,645 M:642,649",
  "M:642,64a M:643,627 M:643,62c M:643,62d M:643,62e M:643,644 M:643,645 M:643,649 M:643,64a",
  "M:644,62c M:644,62d M:644,62e M:644,645 M:644,649 M:644,64a M:645,62c M:645,62d M:645,62e",
  "M:645,645 M:645,649 M:645,64a M:646,62c M:646,62d M:646,62e M:646,645 M:646,649 M:646,64a",
  "M:647,62c M:647,645 M:647,649 M:647,64a M:64a,62c M:64a,62d M:64a,62e M:64a,645 M:64a,649",
  "M:64a,64a M:630,670 M:631,670 M:649,670 M:20,64c,651 M:20,64d,651 M:20,64e,651 M:20,64f,651",
  "M:20,650,651 M:20,651,670 M:626,631 M:626,632 M:626,645 M:626,646 M:626,649 M:626,64a",
  "M:628,631 M:628,632 M:628,645 M:628,646 M:628,649 M:628,64a M:62a,631 M:62a,632 M:62a,645",
  "M:62a,646 M:62a,649 M:62a,64a M:62b,631 M:62b,632 M:62b,645 M:62b,646 M:62b,649 M:62b,64a",
  "M:641,649 M:641,64a M:642,649 M:642,64a M:643,627 M:643,644 M:643,645 M:643,649 M:643,64a",
  "M:644,645 M:644,649 M:644,64a M:645,627 M:645,645 M:646,631 M:646,632 M:646,645 M:646,646",
  "M:646,649 M:646,64a M:649,670 M:64a,631 M:64a,632 M:64a,645 M:64a,646 M:64a,649 M:64a,64a",
  "M:626,62c M:626,62d M:626,62e M:626,645 M:626,647 M:628,62c M:628,62d M:628,62e M:628,645",
  "M:628,647 M:62a,62c M:62a,62d M:62a,62e M:62a,645 M:62a,647 M:62b,645 M:62c,62d M:62c,645",
  "M:62d,62c M:62d,645 M:62e,62c M:62e,645 M:633,62c M:633,62d M:633,62e M:633,645 M:635,62d",
  "M:635,62e M:635,645 M:636,62c M:636,62d M:636,62e M:636,645 M:637,62d M:638,645 M:639,62c",
  "M:639,645 M:63a,62c M:63a,645 M:641,62c M:641,62d M:641,62e M:641,645 M:642,62d M:642,645",
  "M:643,62c M:643,62d M:643,62e M:643,644 M:643,645 M:644,62c M:644,62d M:644,62e M:644,645",
  "M:644,647 M:645,62c M:645,62d M:645,62e M:645,645 M:646,62c M:646,62d M:646,62e M:646,645",
  "M:646,647 M:647,62c M:647,645 M:647,670 M:64a,62c M:64a,62d M:64a,62e M:64a,645 M:64a,647",
  "M:626,645 M:626,647 M:628,645 M:628,647 M:62a,645 M:62a,647 M:62b,645 M:62b,647 M:633,645",
  "M:633,647 M:634,645 M:634,647 M:643,644 M:643,645 M:644,645 M:646,645 M:646,647 M:64a,645",
  "M:64a,647 M:640,64e,651 M:640,64f,651 M:640,650,651 M:637,649 M:637,64a M:639,649 M:639,64a",
  "M:63a,649 M:63a,64a M:633,649 M:633,64a M:634,649 M:634,64a M:62d,649 M:62d,64a M:62c,649",
  "M:62c,64a M:62e,649 M:62e,64a M:635,649 M:635,64a M:636,649 M:636,64a M:634,62c M:634,62d",
  "M:634,62e M:634,645 M:634,631 M:633,631 M:635,631 M:636,631 M:637,649 M:637,64a M:639,649",
  "M:639,64a M:63a,649 M:63a,64a M:633,649 M:633,64a M:634,649 M:634,64a M:62d,649 M:62d,64a",
  "M:62c,649 M:62c,64a M:62e,649 M:62e,64a M:635,649 M:635,64a M:636,649 M:636,64a M:634,62c",
  "M:634,62d M:634,62e M:634,645 M:634,631 M:633,631 M:635,631 M:636,631 M:634,62c M:634,62d",
  "M:634,62e M:634,645 M:633,647 M:634,647 M:637,645 M:633,62c M:633,62d M:633,62e M:634,62c",
  "M:634,62d M:634,62e M:637,645 M:638,645 M:627,64b M:627,64b V12 M:62a,62c,645 M:62a,62d,62c",
  "M:62a,62d,62c M:62a,62d,645 M:62a,62e,645 M:62a,645,62c M:62a,645,62d M:62a,645,62e",
  "M:62c,645,62d M:62c,645,62d M:62d,645,64a M:62d,645,649 M:633,62d,62c M:633,62c,62d",
  "M:633,62c,649 M:633,645,62d M:633,645,62d M:633,645,62c M:633,645,645 M:633,645,645",
  "M:635,62d,62d M:635,62d,62d M:635,645,645 M:634,62d,645 M:634,62d,645 M:634,62c,64a",
  "M:634,645,62e M:634,645,62e M:634,645,645 M:634,645,645 M:636,62d,649 M:636,62e,645",
  "M:636,62e,645 M:637,645,62d M:637,645,62d M:637,645,645 M:637,645,64a M:639,62c,645",
  "M:639,645,645 M:639,645,645 M:639,645,649 M:63a,645,645 M:63a,645,64a M:63a,645,649",
  "M:641,62e,645 M:641,62e,645 M:642,645,62d M:642,645,645 M:644,62d,645 M:644,62d,64a",
  "M:644,62d,649 M:644,62c,62c M:644,62c,62c M:644,62e,645 M:644,62e,645 M:644,645,62d",
  "M:644,645,62d M:645,62d,62c M:645,62d,645 M:645,62d,64a M:645,62c,62d M:645,62c,645",
  "M:645,62e,62c M:645,62e,645 V2 M:645,62c,62e M:647,645,62c M:647,645,645 M:646,62d,645",
  "M:646,62d,649 M:646,62c,645 M:646,62c,645 M:646,62c,649 M:646,645,64a M:646,645,649",
  "M:64a,645,645 M:64a,645,645 M:628,62e,64a M:62a,62c,64a M:62a,62c,649 M:62a,62e,64a",
  "M:62a,62e,649 M:62a,645,64a M:62a,645,649 M:62c,645,64a M:62c,62d,649 M:62c,645,649",
  "M:633,62e,649 M:635,62d,64a M:634,62d,64a M:636,62d,64a M:644,62c,64a M:644,645,64a",
  "M:64a,62d,64a M:64a,62c,64a M:64a,645,64a M:645,645,64a M:642,645,64a M:646,62d,64a",
  "M:642,645,62d M:644,62d,645 M:639,645,64a M:643,645,64a M:646,62c,62d M:645,62e,64a",
  "M:644,62c,645 M:643,645,645 M:644,62c,645 M:646,62c,62d M:62c,62d,64a M:62d,62c,64a",
  "M:645,62c,64a M:641,645,64a M:628,62d,64a M:643,645,645 M:639,62c,645 M:635,645,645",
  "M:633,62e,64a M:646,62c,64a V8 X20 M:635,644,6d2 M:642,644,6d2 M:627,644,644,647",
  "M:627,643,628,631 M:645,62d,645,62f M:635,644,639,645 M:631,633,648,644 M:639,644,64a,647",
  "M:648,633,644,645 M:635,644,649",
  "M:635,644,649,20,627,644,644,647,20,639,644,64a,647,20,648,633,644,645",
  "M:62c,644,20,62c,644,627,644,647 M:631,6cc,627,644 V3 I10 S:2c S:3001 X S2:3a S:21 S:3f",
  "S2:3016 X7 V10 X S:2014 S:2013 S:5f S:5f S2:28 S:7b S:7d S2:3014 S2:3010 S2:300a S2:3008",
  "S4:300c V2 S:5b S:5d M:20,305 M:20,305 M:20,305 M:20,305 S:5f S:5f S:5f S:2c S:3001 X2 S:3b",
  "S:3a S:3f S:21 S:2014 S2:28 S:7b S:7d S2:3014 S:23 S:26 S2:2a S:2d S:3c S:3e S:3d X S:5c",
  "S2:24 S:40 X4 M:20,64b M:640,64b M:20,64c V M:20,64d X M:20,64e M:640,64e M:20,64f M:640,64f",
  "M:20,650 M:640,650 M:20,651 M:640,651 M:20,652 M:640,652 S2:621 S2:622 S2:623 S2:624 S2:625",
  "S:626 S:626 S2:626 S2:627 S:628 S:628 S2:628 S2:629 S:62a S:62a S2:62a S:62b S:62b S2:62b",
  "S:62c S:62c S2:62c S:62d S:62d S2:62d S:62e S:62e S2:62e S2:62f S2:630 S2:631 S2:632 S:633",
  "S:633 S2:633 S:634 S:634 S2:634 S:635 S:635 S2:635 S:636 S:636 S2:636 S:637 S:637 S2:637",
  "S:638 S:638 S2:638 S:639 S:639 S2:639 S:63a S:63a S:63a S:641 S:641 S:641 S2:641 S:642 S:642",
  "S2:642 S:643 S:643 S2:643 S:644 S:644 S2:644 S:645 S:645 S2:645 S:646 S:646 S2:646 S:647",
  "S:647 S2:647 S2:648 S2:649 S:64a S:64a S:64a M:644,622 M:644,622 M:644,623 M:644,623",
  "M:644,625 M:644,625 M:644,627 M:644,627 X2 I X S20:21 S1a:61 S24:5b S2:2985 S:2e S2:300c",
  "S:3001 S:30fb S:30f2 S:30a1 S:30a3 S:30a5 S:30a7 S:30a9 S:30e3 S:30e5 S:30e7 S:30c3 S:30fc",
  "S:30a2 S:30a4 S:30a6 S:30a8 S2:30aa S:30ad S:30af S:30b1 S:30b3 S:30b5 S:30b7 S:30b9 S:30bb",
  "S:30bd S:30bf S:30c1 S:30c4 S:30c6 S:30c8 S6:30ca S:30d2 S:30d5 S:30d8 S:30db S5:30de S:30e4",
  "S:30e6 S6:30e8 S:30ef S:30f3 S2:3099 I S2:1100 S:11aa S:1102 S2:11ac S3:1103 S6:11b0 S:111a",
  "S3:1106 S:1121 Sa:1109 X3 S6:1161 X2 S6:1167 X2 S6:116d X2 S3:1173 X3 S2:a2 S:ac M:20,304",
  "S:a6 S:a5 S:20a9 X S:2502 S4:2190 S:25a0 S:25cb X11 Vc X V1a X V13 X V2 X Vf X2 Ve X22 V7b",
  "X5 V3 X4 V2d X3 V58 X Vd X3 V X2f V2e X82 V1d X3 V31 Xf V1c X4 V24 X9 V1e X5 V2b X5 V1e X",
  "V25 X4 Ve X2a S28:10428 V76 X2 Va X6 S24:104d8 X4 V24 X4 V28 X8 V34 Xb V Sb:10597 X Sf:105a3",
  "X S7:105b3 X S2:105bb X Vb X Vf X V7 X V2 X3 V34 Xc V137 X9 V16 Xa V8 X18 V S2:2d0 S:e6",
  "S:299 S:253 X S:2a3 S:ab66 S:2a5 S:2a4 S2:256 S:1d91 S:258 S:25e S:2a9 S:264 S:262 S:260",
  "S:29b S:127 S:29c S:267 S:284 S2:2aa S:26c S:1df04 S:a78e S:26e S:1df05 S:28e S:1df06 S:f8",
  "S2:276 S:71 S:27a S:1df08 S2:27d S:280 S:2a8 S:2a6 S:ab67 S:2a7 S:288 S:2c71 X S:28f S2:2a1",
  "S:298 S3:1c0 S:1df0a S:1df1e X45 V6 X2 V X V2c X V2 X3 V X2 V17 X V48 X8 V9 X30 V13 X V2 X5",
  "V21 X3 V1b X5 V1b X26 V38 X4 V14 X2 V32 X V2 X5 V8 X V3 X V1d X2 V3 X4 Va X7 V9 X7 V40 X20",
  "V27 X4 Vc X9 V36 X3 V1d X2 V1b X5 V1a X7 V4 Xc V7 X50 V49 X37 S33:10cc0 Xd V33 X7 V2e X8 Va",
  "X6 V10 S16:10d70 X3 V1d X8 V2 Xd0 V1f X V2a X V3 X2 V2 X10 V6 X8 V9 X21 V2e X8 V2a X16 V1a",
  "X26 V1c X14 V17 X9 V4e X4 V24 X9 V3e X V5 Xd V19 X7 Va X6 V35 X V12 X8 V27 X9 V60 X V14 Xb",
  "V12 X V2f X3e V7 X V X V4 X Vf X Vb X6 V3b X5 Va X6 V4 X V8 X2 V2 X2 V16 X V7 X V2 X V5 X Va",
  "X2 V2 X2 V3 X2 V X6 V X5 V7 X2 V7 X3 V5 Xb Va X V X2 V X V26 X Va X V X2 V X V4 X Va X V2 X8",
  "V2 X1d V5c X V5 X1e V48 X8 Va Xa6 V36 X2 V26 X22 V45 Xb Va X6 Vd X13 V3a X6 Va X6 V14 X1c",
  "V1b X2 Vf X4 V17 Xb9 V3c X64 S20:118c0 V33 Xc V8 X2 V X2 V8 X V2 X V1e X V2 X2 Vc X9 Va X46",
  "V8 X2 V2e X2 Vb X1b V48 X8 V53 Xd V49 X7 Va X56 V8 X58 V22 Xe Va X6 V9 X V2d X Ve Xa V1d X3",
  "V20 X2 V16 X Ve X49 V7 X V2 X V2c X3 V X V2 X V9 X8 Va X6 V6 X V2 X V25 X V2 X V6 X7 Va X6",
  "V2c X4 Va Xf6 V19 X7 V11 X V29 X3 V1d X55 V Xf V32 Xd V39b X66 V6f X V5 Xb Vc4 Xa4c V63 Xd",
  "V430 X10 V16 Xa Vf9b X5 V247 X1ab9 V3a X6c6 V239 X7 V1f X Va X4 V51 X Va X6 V1e X2 V6 Xa V46",
  "Xa Va X V7 X V15 X5 V13 X1b0 V3a Xc6 S20:16e60 V3b X5 S19:16ebb X2 V19 X2c V4b X4 V39 X7 V11",
  "X40 V5 Xb V7 X9 V1cd6 X29 V20 X61 V73 X21fd V4 X V7 X V2 X V123 Xf V X1d V3 X2 V Xe V4 X8",
  "V18c X904 V6b X5 Vd X3 V9 X7 Va X2 V4 I4 Xf5c Vd6 S1a:61 Sa:30 V3 X3 V1b4 X6 V17 Xf V11 Xf",
  "V2e X2 V17 X9 V74 X3c Vf6 Xa V27 X2 V35 M:1d157,1d165 M:1d158,1d165 M:1d158,1d165,1d16e",
  "M:1d158,1d165,1d16f M:1d158,1d165,1d170 M:1d158,1d165,1d171 M:1d158,1d165,1d172 Ve I8 V40",
  "M:1d1b9,1d165 M:1d1ba,1d165 M:1d1b9,1d165,1d16e M:1d1ba,1d165,1d16e M:1d1b9,1d165,1d16f",
  "M:1d1ba,1d165,1d16f V2a X15 V46 X7a V14 Xc V14 Xc V57 X9 V19 X87 S1a:61 S1a:61 S1a:61 S7:61",
  "X S12:69 S1a:61 S1a:61 S:61 X S2:63 X2 S:67 X2 S2:6a X2 S4:6e X S8:73 S4:61 X S:66 X S7:68 X",
  "Sb:70 S1a:61 S1a:61 S2:61 X S4:64 X2 S8:6a X S7:73 X S1a:61 S2:61 X S4:64 X S5:69 X S:6f X3",
  "S7:73 X S1a:61 S1a:61 S1a:61 S1a:61 S1a:61 S1a:61 S1a:61 S1a:61 S1a:61 S1a:61 S1a:61 S1a:61",
  "S1a:61 S:131 S:237 X2 S11:3b1 S:3b8 S7:3c3 S:2207 S11:3b1 S:3c3 S7:3c3 S:2202 S:3b5 S:3b8",
  "S:3ba S:3c6 S:3c1 S:3c0 S11:3b1 S:3b8 S7:3c3 S:2207 S11:3b1 S:3c3 S7:3c3 S:2202 S:3b5 S:3b8",
  "S:3ba S:3c6 S:3c1 S:3c0 S11:3b1 S:3b8 S7:3c3 S:2207 S11:3b1 S:3c3 S7:3c3 S:2202 S:3b5 S:3b8",
  "S:3ba S:3c6 S:3c1 S:3c0 S11:3b1 S:3b8 S7:3c3 S:2207 S11:3b1 S:3c3 S7:3c3 S:2202 S:3b5 S:3b8",
  "S:3ba S:3c6 S:3c1 S:3c0 S11:3b1 S:3b8 S7:3c3 S:2207 S11:3b1 S:3c3 S7:3c3 S:2202 S:3b5 S:3b8",
  "S:3ba S:3c6 S:3c1 S:3c0 S:3dd S:3dd X2 Sa:30 Sa:30 Sa:30 Sa:30 Sa:30 V28c Xf V5 X Vf X450",
  "V1f X6 V6 Xd5 V7 X V11 X2 V7 X V2 X V5 X5 S9:430 S3:43a Sb:43e S:44b S2:44d S:a689 S:4d9",
  "S:456 S:458 S:4e9 S:4af S:4cf S9:430 S2:43a S2:43e S:441 S6:443 S2:44a S:491 S:456 S:455",
  "S:45f S:4ab S:a651 S:4b1 X21 V X70 V2d X3 Ve X2 Va X4 V2 X140 V1f X11 V3a X5 V X1d0 V2a Xd6",
  "V2b X4 V Xc0 V1f X V16 X8 V2 Xe0 V7 X V4 X V2 X Vf X Vc5 X2 V10 X29 S22:1e922 V2a X4 Va X4",
  "V2 X311 V44 X4c V3d Xc2 S2:627 S:62c S:62f X S:648 S:632 S:62d S:637 S:64a S4:643 S:633",
  "S:639 S:641 S:635 S:642 S:631 S:634 S2:62a S:62e S:630 S:636 S:638 S:63a S:66e S:6ba S:6a1",
  "S:66f X S:628 S:62c X S:647 X2 S:62d X S:64a S4:643 S:633 S:639 S:641 S:635 S:642 X S:634",
  "S2:62a S:62e X S:636 X S:63a X6 S:62c X4 S:62d X S:64a X S:644 X S:646 S:633 S:639 X S:635",
  "S:642 X S:634 X2 S:62e X S:636 X S:63a X S:6ba X S:66f X S:628 S:62c X S:647 X2 S:62d S:637",
  "S:64a S:643 X S2:645 S:633 S:639 S:641 S:635 S:642 X S:634 S2:62a S:62e X S:636 S:638 S:63a",
  "S:66e X S:6a1 X S2:627 S:62c S:62f S2:647 S:632 S:62d S:637 S:64a X S3:644 S:633 S:639 S:641",
  "S:635 S:642 S:631 S:634 S2:62a S:62e S:630 S:636 S:638 S:63a X5 S:628 S:62c S:62f X S:648",
  "S:632 S:62d S:637 S:64a X S3:644 S:633 S:639 S:641 S:635 S:642 S:631 S:634 S2:62a S:62e",
  "S:630 S:636 S:638 S:63a X34 V2 X10e V2c X4 V64 Xc Vf X2 Vf X Vf X V25 Xb M:30,2c M:31,2c",
  "M:32,2c M:33,2c M:34,2c M:35,2c M:36,2c M:37,2c M:38,2c M:39,2c V5 M:28,61,29 M:28,62,29",
  "M:28,63,29 M:28,64,29 M:28,65,29 M:28,66,29 M:28,67,29 M:28,68,29 M:28,69,29 M:28,6a,29",
  "M:28,6b,29 M:28,6c,29 M:28,6d,29 M:28,6e,29 M:28,6f,29 M:28,70,29 M:28,71,29 M:28,72,29",
  "M:28,73,29 M:28,74,29 M:28,75,29 M:28,76,29 M:28,77,29 M:28,78,29 M:28,79,29 M:28,7a,29",
  "M:3014,73,3015 S:63 S:72 M:63,64 M:77,7a V S1a:61 M:68,76 M:6d,76 M:73,64 M:73,73 M:70,70,76",
  "M:77,63 V1a M:6d,63 M:6d,64 M:6d,72 V23 M:64,6a V1d X38 V1a M:307b,304b M:30b3,30b3 S:30b5",
  "Xd S:624b S:5b57 S:53cc S:30c7 S:4e8c S:591a S:89e3 S:5929 S:4ea4 S:6620 S:7121 S:6599",
  "S:524d S:5f8c S:518d S:65b0 S:521d S:7d42 S:751f S:8ca9 S:58f0 S:5439 S:6f14 S:6295 S:6355",
  "S:4e00 S:4e09 S:904a S:5de6 S:4e2d S:53f3 S:6307 S:8d70 S:6253 S:7981 S:7a7a S:5408 S:6e80",
  "S:6709 S:6708 S:7533 S:5272 S:55b6 S:914d X4 M:3014,672c,3015 M:3014,4e09,3015",
  "M:3014,4e8c,3015 M:3014,5b89,3015 M:3014,70b9,3015 M:3014,6253,3015 M:3014,76d7,3015",
  "M:3014,52dd,3015 M:3014,6557,3015 X7 S:5f97 S:53ef Xe V6 X9a V3d9 X3 V11 X3 Vd X3 Vda X6 Vc",
  "X4 V Xf Vc X4 V38 X8 Va X6 V28 X8 V1e X2 Vc X4 V2 Xe V9 X27 V158 X8 Ve X2 Vd X3 Vb X3 V39 X",
  "V X4 V10 X2 Vc X4 Va X7 V93 X V5c Sa:30 V X405 Va6e0 X20 V111e X2 V168e X2 V1d31 Xf V26e",
  "X9a2 S:4e3d S:4e38 S:4e41 S:20122 S:4f60 S:4fae S:4fbb S:5002 S:507a S:5099 S:50e7 S:50cf",
  "S:349e S:2063a S:514d S:5154 S:5164 S:5177 S:2051c S:34b9 S:5167 S:518d S:2054b S:5197",
  "S:51a4 S:4ecc S:51ac S:51b5 S:291df S:51f5 S:5203 S:34df S:523b S:5246 S:5272 S:5277 S:3515",
  "S:52c7 S:52c9 S:52e4 S:52fa S2:5305 S:5317 S:5349 S:5351 S:535a S:5373 S:537d S:537f S:537f",
  "S:537f S:20a2c S:7070 S:53ca S:53df S:20b63 S:53eb S:53f1 S:5406 S:549e S:5438 S:5448 S:5468",
  "S:54a2 S:54f6 S:5510 S:5553 S:5563 S:5584 S:5584 S:5599 S:55ab S:55b3 S:55c2 S:5716 S:5606",
  "S:5717 S:5651 S:5674 S:5207 S:58ee S:57ce S:57f4 S:580d S:578b S:5832 S:5831 S:58ac S:214e4",
  "S:58f2 S:58f7 S:5906 S:591a S:5922 S:5962 S:216a8 S:216ea S:59ec S:5a1b S:5a27 S:59d8 S:5a66",
  "S:36ee S:36fc S:5b08 S:5b3e S:5b3e S:219c8 S:5bc3 S:5bd8 S:5be7 S:5bf3 S:21b18 S:5bff S:5c06",
  "S:5f53 S:5c22 S:3781 S:5c60 S:5c6e S:5cc0 S:5c8d S:21de4 S:5d43 S:21de6 S:5d6e S:5d6b S:5d7c",
  "S2:5de1 S:382f S:5dfd S:5e28 S:5e3d S:5e69 S:3862 S:22183 S:387c S:5eb0 S:5eb3 S:5eb6 S:5eca",
  "S:2a392 S:5efe S:22331 S:22331 S:8201 S:5f22 S:5f22 S:38c7 S:232b8 S:261da S:5f62 S:5f6b",
  "S:38e3 S:5f9a S:5fcd S:5fd7 S:5ff9 S:6081 S:393a S:391c S:6094 S:226d4 S:60c7 S:6148 S:614c",
  "S:614e S:614c S:617a S:618e S:61b2 S:61a4 S:61af S:61de S:61f2 S:61f6 S:6210 S:621b S:625d",
  "S:62b1 S:62d4 S:6350 S:22b0c S:633d S:62fc S:6368 S:6383 S:63e4 S:22bf1 S:6422 S:63c5 S:63a9",
  "S:3a2e S:6469 S:647e S:649d S:6477 S:3a6c S:654f S:656c S:2300a S:65e3 S:66f8 S:6649 S:3b19",
  "S:6691 S:3b08 S:3ae4 S:5192 S:5195 S:6700 S:669c S:80ad S:43d9 S:6717 S:671b S:6721 S:675e",
  "S:6753 S:233c3 S:3b49 S:67fa S:6785 S:6852 S:6885 S:2346d S:688e S:681f S:6914 S:3b9d S:6942",
  "S:69a3 S:69ea S:6aa8 S:236a3 S:6adb S:3c18 S:6b21 S:238a7 S:6b54 S:3c4e S:6b72 S:6b9f",
  "S2:6bba S:23a8d S:21d0b S:23afa S:6c4e S:23cbc S:6cbf S:6ccd S:6c67 S:6d16 S:6d3e S:6d77",
  "S:6d41 S:6d69 S:6d78 S:6d85 S:23d1e S:6d34 S:6e2f S:6e6e S:3d33 S:6ecb S:6ec7 S:23ed1 S:6df9",
  "S:6f6e S:23f5e S:23f8e S:6fc6 S:7039 S:701e S:701b S:3d96 S:704a S:707d S:7077 S:70ad",
  "S:20525 S:7145 S:24263 S:719c S:243ab S:7228 S:7235 S:7250 S:24608 S:7280 S:7295 S:24735",
  "S:24814 S:737a S:738b S:3eac S:73a5 S:3eb8 S:3eb8 S:7447 S:745c S:7471 S:7485 S:74ca S:3f1b",
  "S:7524 S:24c36 S:753e S:24c92 S:7570 S:2219f S:7610 S:24fa1 S:24fb8 S:25044 S:3ffc S:4008",
  "S:76f4 S:250f3 S:250f2 S:25119 S:25133 S2:771e S:771f S:774a S:4039 S:778b S:4046 S:4096",
  "S:2541d S:784e S:788c S:78cc S:40e3 S:25626 S:7956 S:2569a S:256c5 S:798f S:79eb S:412f",
  "S:7a40 S:7a4a S:7a4f S:2597c S:25aa7 S:25aa7 S:7aee S:4202 S:25bab S:7bc6 S:7bc9 S:4227",
  "S:25c80 S:7cd2 S:42a0 S:7ce8 S:7ce3 S:7d00 S:25f86 S:7d63 S:4301 S:7dc7 S:7e02 S:7e45 S:4334",
  "S:26228 S:26247 S:4359 S:262d9 S:7f7a S:2633e S:7f95 S:7ffa S:8005 S:264da S:26523 S:8060",
  "S:265a8 S:8070 S:2335f S:43d5 S:80b2 S:8103 S:440b S:813e S:5ab5 S:267a7 S:267b5 S:23393",
  "S:2339c S:8201 S:8204 S:8f9e S:446b S:8291 S:828b S:829d S:52b3 S:82b1 S:82b3 S:82bd S:82e6",
  "S:26b3c S:82e5 S:831d S:8363 S:83ad S:8323 S:83bd S:83e7 S:8457 S:8353 S:83ca S:83cc S:83dc",
  "S:26c36 S:26d6b S:26cd5 S:452b S:84f1 S:84f3 S:8516 S:273ca S:8564 S:26f2c S:455d S:4561",
  "S:26fb1 S:270d2 S:456b S:8650 S:865c S:8667 S:8669 S:86a9 S:8688 S:870e S:86e2 S:8779 S:8728",
  "S:876b S:8786 S:45d7 S:87e1 S:8801 S:45f9 S:8860 S:8863 S:27667 S:88d7 S:88de S:4635 S:88fa",
  "S:34bb S:278ae S:27966 S:46be S:46c7 S:8aa0 S:8aed S:8b8a S:8c55 S:27ca8 S:8cab S:8cc1",
  "S:8d1b S:8d77 S:27f2f S:20804 S:8dcb S:8dbc S:8df0 S:208de S:8ed4 S:8f38 S:285d2 S:285ed",
  "S:9094 S:90f1 S:9111 S:2872e S:911b S:9238 S2:92d7 S:927c S:93f9 S:9415 S:28bfa S:958b",
  "S:4995 S:95b7 S:28d77 S:49e6 S:96c3 S:5db2 S:9723 S:29145 S:2921a S:4a6e S:4a76 S:97e0",
  "S:2940a S:4ab2 S:29496 S:980b S:980b S:9829 S:295b6 S:98e2 S:4b33 S:9929 S:99a7 S:99c2",
  "S:99fe S:4bce S:29b30 S:9b12 S:9c40 S:9cfd S:4cce S:4ced S:9d67 S:2a0ce S:4cf8 S:2a105",
  "S:2a20e S:2a291 S:9ebb S:4d56 S:9ef9 S:9efe S:9f05 S:9f0f S:9f16 S:9f3b S:2a600 X5e2 V134b",
  "X5 V212a Xacc86 If0 X2fe10"]

end BrokerControl.International
