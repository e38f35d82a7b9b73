-- The host's programs by their names.
import ApkForge.Script.Program.Blocks
import ApkForge.Script.Program.Columns
import ApkForge.Script.Program.Comparing
import ApkForge.Script.Program.Copying
import ApkForge.Script.Program.Editing
import ApkForge.Script.Program.Fields
import ApkForge.Script.Program.Joining
import ApkForge.Script.Program.Ruling
import ApkForge.Script.Program.Seeking
import ApkForge.Script.Program.Summing

namespace ApkForge.Script.Program

open Work

/-- The programs that work on files and directories. -/
def fileProgram? : String → Option (String → List String → Work Unit)
  | "chmod" => some chmod
  | "cp" => some cp
  | "install" => some install
  | "link" => some link
  | "ln" => some ln
  | "ls" => some ls
  | "mkdir" => some mkdir
  | "mktemp" => some mktemp
  | "mv" => some mv
  | "readlink" => some readlink
  | "realpath" => some realpath
  | "rm" => some rm
  | "rmdir" => some rmdir
  | "stat" => some stat
  | "touch" => some touch
  | "truncate" => some truncate
  | "unlink" => some unlink
  | _ => none

/-- The programs that work on texts. -/
def textProgram? : String → Option (String → List String → Work Unit)
  | "cat" => some cat
  | "comm" => some comm
  | "cut" => some cut
  | "egrep" => some egrep
  | "expand" => some expand
  | "fgrep" => some fgrep
  | "fold" => some fold
  | "grep" => some grep
  | "head" => some head
  | "join" => some join
  | "nl" => some nl
  | "paste" => some paste
  | "rev" => some rev
  | "sed" => some sed
  | "seq" => some seq
  | "sort" => some sort
  | "tac" => some tac
  | "tail" => some tail
  | "tee" => some tee
  | "tr" => some tr
  | "unexpand" => some unexpand
  | "uniq" => some uniq
  | "wc" => some wc
  | "yes" => some yes
  | _ => none

/-- The programs that take texts as bytes. -/
def byteProgram? : String → Option (String → List String → Work Unit)
  | "base64" => some base64
  | "cksum" => some cksum
  | "cmp" => some cmp
  | "dd" => some dd
  | "diff" => some diff
  | "md5sum" => some (summed "MD5" Md5.digest)
  | "od" => some od
  | "sha1sum" => some (summed "SHA1" Sha1.digest)
  | "sha256sum" => some (summed "SHA256" Sha256.digest)
  | _ => none

/-- The programs that tell and compute. -/
def plainProgram? : String → Option (String → List String → Work Unit)
  | "[" => some bracketed
  | "arch" => some arch
  | "basename" => some basename
  | "date" => some date
  | "dirname" => some dirname
  | "echo" => some echo
  | "expr" => some expr
  | "false" => some fun _ _ => ends 1
  | "hostname" => some hostname
  | "id" => some id
  | "nproc" => some nproc
  | "printenv" => some printenv
  | "printf" => some printf
  | "pwd" => some pwd
  | "sleep" => some sleep
  | "sync" => some fun _ _ => ends 0
  | "test" => some test
  | "true" => some fun _ _ => ends 0
  | "tty" => some tty
  | "uname" => some uname
  | "which" => some which
  | "whoami" => some whoami
  | _ => none

/-- The programs that start others. -/
def startingProgram? (launcher : Launcher) : String → Option (String → List String → Work Unit)
  | "awk" => some (awk launcher)
  | "env" => some (env launcher)
  | "find" => some (find launcher)
  | "mawk" => some (awk launcher)
  | "nice" => some (nice launcher)
  | "nohup" => some (nohup launcher)
  | "timeout" => some (timeout launcher)
  | "xargs" => some (xargs launcher)
  | _ => none

/-- A program of the host, by its name and the name that it is called by. -/
def find? (launcher : Launcher) (name self : String) : Option (List String → Work Unit) :=
  (fileProgram? name <|> textProgram? name <|> byteProgram? name <|> plainProgram? name <|>
    startingProgram? launcher name).map fun act => act self

end ApkForge.Script.Program
