import BeanBridge.Config.Fields
import BeanBridge.Json.Basic

/-! The settings of a connection as JSON: an object with all fields by name, in their order. -/

namespace BeanBridge.Config

/-- The fields as JSON values, in their order. -/
def jsonFields (config : Config) : List Json :=
  [.string config.url, .string config.host, .whole config.port.toNat, .string config.path,
    .string config.user, .string config.password, .string config.keyStore,
    .string config.keyStorePassword, .string config.trustStore, .string config.trustStorePassword,
    .bool config.isRemote, .bool config.isStandalone, .bool config.useTls,
    .whole config.requestTimeout.toInt, .bool config.verbose, .bool config.recordsStats,
    .whole config.statsCapacity.toInt]

/-- The settings as JSON. -/
def toJson (config : Config) : Json := .object (fieldNames.zip config.jsonFields)

end BeanBridge.Config
