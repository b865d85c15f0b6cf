import PatchTrial.Machine.Basic

/-!
What a plain system has before anybody has put files into it: its directories, its tools, its
devices and a few files that programs look for.

A tool has an empty file that can be run. It stands there so that it is found; what the tool does
is not read from it.
-/
namespace PatchTrial.FileTree

/-- The directories of a plain system. -/
def systemDirectories : List String := [
  "bin", "boot", "dev", "etc", "home", "lib", "lib64", "media", "mnt", "opt", "proc", "root", "run",
  "sbin", "srv", "sys", "tmp", "usr", "usr/bin", "usr/games", "usr/include", "usr/lib", "usr/local",
  "usr/local/bin", "usr/local/lib", "usr/sbin", "usr/share", "var", "var/cache", "var/lib",
  "var/log", "var/tmp"]

/-- The devices of a plain system. -/
def systemDevices : List String := ["dev/full", "dev/null", "dev/random", "dev/urandom", "dev/zero"]

/-- The names of the tools of a plain system. -/
def systemTools : List String :=
  Shell.shellNames ++ Shell.lookupTool ::
    (Shell.plainTools ++ Shell.digestTools ++ Shell.startingTools Shell.noStarter).map (·.1)

/-- Files that programs look for. -/
def systemFiles : List (String × String) := [
  ("etc/group", "root:x:0:\ndaemon:x:1:\nbin:x:2:\nsys:x:3:\nnogroup:x:65534:\n"),
  ("etc/hostname", "localhost\n"),
  ("etc/hosts", "127.0.0.1\tlocalhost\n"),
  ("etc/passwd", "root:x:0:0:root:/root:/bin/bash\n" ++
    "daemon:x:1:1:daemon:/usr/sbin:/usr/sbin/nologin\nbin:x:2:2:bin:/bin:/usr/sbin/nologin\n" ++
    "sys:x:3:3:sys:/dev:/usr/sbin/nologin\n" ++
    "nobody:x:65534:65534:nobody:/nonexistent:/usr/sbin/nologin\n")]

/-- A plain system. -/
def system : FileTree :=
  let place (path : String) : Place := path.splitOn "/"
  ⟨systemDirectories.map (place ·, .directory) ++
    systemDevices.map (place ·, .device) ++
    systemFiles.map (fun x => (place x.1, .file x.2.toUTF8 plainMode)) ++
    (["bin", "usr/bin"].flatMap fun dir =>
      systemTools.map fun name => (place (dir ++ "/" ++ name), .file .empty programMode))⟩

end PatchTrial.FileTree
