import BeanBridge.Config.Basic

/-! The address that the settings of a connection stand for. -/

namespace BeanBridge.Config

/-- The path of an endpoint when none is given. -/
def defaultPath : String := "jmxrmi"

/-- The path behind the port. -/
def effectivePath (config : Config) : String :=
  if config.path.isEmpty then defaultPath else config.path

/-- The protocol of a remoting endpoint. -/
def remoteProtocol (config : Config) : String :=
  if config.isStandalone then (if config.useTls then "remote+https" else "remote+http")
  else "remote"

/-- The host and the port with a colon between them. -/
def authority (config : Config) : String := config.host ++ ":" ++ toString config.port.toNat

/-- The address to connect to.  Over remoting a path of one's own follows the port directly and
ends in a slash; otherwise a slash divides them. -/
def target (config : Config) : String :=
  if !config.url.isEmpty then config.url
  else if config.isRemote then
    "service:jmx:" ++ config.remoteProtocol ++ "://" ++ config.authority ++
      (if config.effectivePath = defaultPath then "" else config.effectivePath ++ "/")
  else "service:jmx:rmi:///jndi/rmi://" ++ config.authority ++ "/" ++ config.effectivePath

end BeanBridge.Config
