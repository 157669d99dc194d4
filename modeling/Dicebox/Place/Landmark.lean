import Dicebox.Place.Location

/-!
# Landmarks — what one machine has

Outside the working directory little is known. There are the directories above it, and besides them
the directories, files and devices of one machine (`Location.landmark?`): a Debian system as it is
after it has been installed, on which `root` runs the program, and of which only that is listed here
which such a system is expected to have. Of such a file it is only known that it is there.

On other machines there may be more, or less, and these tables do not tell. They make a difference
only to a path that somebody gives and that leaves the working directory.

All that is told of the working directory itself is that it is a directory; what is in it is not a
landmark.
-/

set_option autoImplicit false

namespace Dicebox

/-- Something that the machine has. -/
inductive Landmark
  | directory
  | file
  | device
  deriving Repr, DecidableEq

namespace Landmark

/-- Directories of the root, and the directories in them: those of a Debian system with nothing
installed that is not part of it. -/
def directories : List (String × List String) :=
  [("bin", []), ("boot", []), ("dev", ["fd", "mqueue", "pts", "shm"]),
    ("etc", ["alternatives", "apt", "cron.d", "cron.daily", "default", "init.d", "ld.so.conf.d",
      "pam.d", "profile.d", "security", "skel", "ssl", "systemd"]),
    ("home", []), ("lib", []), ("lib64", []), ("media", []), ("mnt", []), ("opt", []),
    ("proc", ["self", "sys"]), ("root", []), ("run", ["lock"]), ("sbin", []), ("srv", []),
    ("sys", ["block", "bus", "class", "dev", "devices", "fs", "kernel", "module"]), ("tmp", []),
    ("usr", ["bin", "games", "include", "lib", "lib64", "libexec", "local", "sbin", "share",
      "src"]),
    ("var", ["backups", "cache", "lib", "local", "lock", "log", "mail", "opt", "run", "spool",
      "tmp"])]

/-- Files of that system by their directories; of its programs only the common ones, and of the home
of `root` what is put into it when it is made. -/
def files : List (String × List String) :=
  [("bin", ["bash", "cat", "cp", "dash", "echo", "env", "false", "grep", "head", "id", "ln", "ls",
      "mkdir", "mv", "pwd", "rm", "sed", "sh", "tail", "tar", "touch", "true"]),
    ("etc", ["bash.bashrc", "debian_version", "environment", "fstab", "group", "gshadow",
      "host.conf", "hostname", "hosts", "issue", "issue.net", "ld.so.cache", "ld.so.conf",
      "localtime", "login.defs", "motd", "nsswitch.conf", "os-release", "passwd", "profile",
      "resolv.conf", "shadow", "shells", "subgid", "subuid", "timezone"]),
    ("proc", ["cpuinfo", "meminfo", "mounts", "stat", "uptime", "version"]),
    ("root", [".bashrc", ".profile"])]

/-- Devices by their directories, those that a container on that system is given. -/
def devices : List (String × List String) :=
  [("dev", ["console", "full", "null", "ptmx", "random", "tty", "urandom", "zero"])]

/-- Whether a list by directories has a name in a directory. -/
def has (list : List (String × List String)) (parent name : String) : Bool :=
  (list.lookup parent).any (·.contains name)

/-- What is at the end of some steps from the root. -/
def ofSteps? : List String → Option Landmark
  | [] => some .directory
  | [name] => if (directories.lookup name).isSome then some .directory else none
  | [parent, name] =>
    if has directories parent name then some .directory
    else if has files parent name then some .file
    else if has devices parent name then some .device
    else none
  | ["usr", "bin", name] => if has files "bin" name then some .file else none
  | ["usr", "local", name] =>
    if ["bin", "etc", "games", "include", "lib", "sbin", "share", "src"].contains name then
      some .directory
    else none
  | _ => none

/-- Every directory listed is one. -/
theorem ofSteps?_directories : ∀ d ∈ directories,
    ofSteps? [d.1] = some .directory ∧ ∀ name ∈ d.2, ofSteps? [d.1, name] = some .directory := by
  decide +kernel

end Landmark

/-- What the machine has at a location. -/
def Location.landmark? (l : Location) : Option Landmark :=
  if l.isAbove then some .directory
  else if l.up = rootDistance then Landmark.ofSteps? l.down
  else none

namespace Location

/-- Directories that are above the working directory are there. -/
theorem landmark?_of_isAbove {l : Location} (h : l.isAbove = true) :
    l.landmark? = some .directory := by
  simp [landmark?, h]

end Location

end Dicebox
