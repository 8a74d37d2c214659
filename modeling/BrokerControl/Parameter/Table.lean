import BrokerControl.Parameter.Path

/-!
# The table of parameters

Which flat parameters there are, where each stands in a body, which have a default, and which can
only be given when a broker is created. `Table.standard` is the table for message brokers.
-/

namespace BrokerControl

/-- What is known about the parameters of a broker. -/
structure Table where
  /-- The path of each parameter. -/
  paths : List (String × Path)
  /-- The values that a creation starts from. -/
  defaults : Object
  /-- The parameters that can only be given on creation. -/
  creationOnly : List String
  /-- The authentication strategies that a creation refuses. -/
  refusedStrategies : List String
  /-- The user that a creation without users gets. -/
  defaultUser : Json

namespace Table

/-- The path of the parameter called `key`. -/
def path? (t : Table) (key : String) : Option Path := Object.get? t.paths key

/-- Whether the parameter called `key` can only be given on creation. -/
def isCreationOnly (t : Table) (key : String) : Bool := t.creationOnly.contains key

/-- The parameter that holds the name of a broker. -/
def nameKey : String := "broker_name"

/-- The table for message brokers. -/
def standard : Table where
  paths := [
    ("authentication_strategy", ⟨"AuthenticationStrategy", []⟩),
    ("auto_minor_version_upgrade", ⟨"AutoMinorVersionUpgrade", []⟩),
    (nameKey, ⟨"BrokerName", []⟩),
    ("deployment_mode", ⟨"DeploymentMode", []⟩),
    ("use_aws_owned_key", ⟨"EncryptionOptions", ["UseAwsOwnedKey"]⟩),
    ("kms_key_id", ⟨"EncryptionOptions", ["KmsKeyId"]⟩),
    ("engine_type", ⟨"EngineType", []⟩),
    ("engine_version", ⟨"EngineVersion", []⟩),
    ("host_instance_type", ⟨"HostInstanceType", []⟩),
    ("enable_audit_log", ⟨"Logs", ["Audit"]⟩),
    ("enable_general_log", ⟨"Logs", ["General"]⟩),
    ("maintenance_window_start_time", ⟨"MaintenanceWindowStartTime", []⟩),
    ("publicly_accessible", ⟨"PubliclyAccessible", []⟩),
    ("security_groups", ⟨"SecurityGroups", []⟩),
    ("storage_type", ⟨"StorageType", []⟩),
    ("subnet_ids", ⟨"SubnetIds", []⟩),
    ("users", ⟨"Users", []⟩),
    ("tags", ⟨"Tags", []⟩)]
  defaults := [
    ("authentication_strategy", .string "SIMPLE"),
    ("auto_minor_version_upgrade", .bool true),
    ("deployment_mode", .string "SINGLE_INSTANCE"),
    ("enable_audit_log", .bool false),
    ("enable_general_log", .bool false),
    ("engine_type", .string "ACTIVEMQ"),
    ("engine_version", .string "5.15.13"),
    ("host_instance_type", .string "mq.t3.micro"),
    ("publicly_accessible", .bool false),
    ("storage_type", .string "EFS"),
    ("use_aws_owned_key", .bool true)]
  creationOnly := [
    "deployment_mode", "engine_type", "kms_key_id", "maintenance_window_start_time",
    "publicly_accessible", "storage_type", "subnet_ids", "tags", "use_aws_owned_key", "users"]
  refusedStrategies := ["LDAP"]
  defaultUser := .object [
    ("ConsoleAccess", .bool true),
    ("Groups", .array []),
    ("Password", .string "adminPassword"),
    ("Username", .string "admin")]

end Table

end BrokerControl
