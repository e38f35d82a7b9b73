-- The tools of the host. Some come with the runtime files, one set for each family of hosts; the
-- Java tools are looked for in their own home and then on the search path.
import ApkForge.Environment
import ApkForge.Fault

namespace ApkForge

/-- A family of hosts that runtime tools are built for, or a host without any. -/
inductive HostFamily where
  | linux
  | mac
  | windows
  | unsupported (os : String)
deriving DecidableEq, Repr, Inhabited

namespace HostFamily

/-- The family of a host. -/
def ofOs (os : String) : HostFamily :=
  if os == "linux" then .linux
  else if os == "macos" then .mac
  else if os == "windows" then .windows
  else .unsupported os

/-- The name of a family. -/
def name : HostFamily → String
  | .linux => "linux"
  | .mac => "mac"
  | .windows => "windows"
  | .unsupported os => os

/-- The runtime file of a tool. -/
def resource (host : HostFamily) (tool : String) : Except ToolchainError String :=
  match host with
  | .unsupported os => .error (.unsupportedHost tool.toUpper os)
  | family => .ok ("tools/" ++ family.name ++ "/" ++ tool)

/-- The packager among the runtime files. -/
def aapt (host : HostFamily) : Except ToolchainError String := host.resource "aapt"

/-- The aligner among the runtime files. -/
def zipalign (host : HostFamily) : Except ToolchainError String := host.resource "zipalign"

/-- The file name of a program. -/
def programName (host : HostFamily) (tool : String) : String :=
  match host with
  | .windows => tool ++ ".exe"
  | _ => tool

end HostFamily

/-- The host and the home of its Java tools. -/
structure Toolchain where
  host : HostFamily
  javaHome : Option Path
deriving DecidableEq, Repr, Inhabited

namespace Toolchain

/-- The host that this program is built for. -/
def thisHost : HostFamily := .linux

/-- The toolchain of this host. A home that is not given is taken from the environment. -/
def detect (env : Environment) (javaHome : Option Path) : Toolchain where
  host := thisHost
  javaHome := javaHome.or ((env.get? "JAVA_HOME").map Path.mk)

/-- Where a Java tool may lie: in the home, or beside it when the home is a runtime within. -/
def candidates (t : Toolchain) (program : String) : List Path :=
  match t.javaHome with
  | some home =>
    [(home.join "bin").join program, ((home.join "..").join "bin").join program]
  | none => []

/-- A Java tool, by its name. -/
def javaTool (t : Toolchain) (env : Environment) (tree : FileTree) (start : Place)
    (tool : String) : Except ToolchainError Path :=
  let program := t.host.programName tool
  let tried := t.candidates program
  match tried.find? fun p => tree.isFile start p with
  | some p => .ok p
  | none =>
    match env.which? tree start program with
    | some p => .ok p
    | none => .error (.toolNotFound tool tried)

end Toolchain

end ApkForge
