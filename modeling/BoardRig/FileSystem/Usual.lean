/-
The files that every machine has.

There are the usual directories, devices, and the programs that come with the
machine. The programs have names of their own and are no bytes that anybody
could look at.
-/
import BoardRig.FileSystem.Operations

namespace BoardRig.FileSystem

/-- The directories that every machine has, each behind the ones it is in. -/
def usualDirectories : List String := [
  "/dev", "/dev/pts", "/dev/shm", "/etc", "/home", "/media", "/mnt", "/opt", "/proc",
  "/proc/self", "/proc/self/fd", "/root", "/run", "/srv", "/sys", "/sys/class",
  "/sys/class/tty", "/tmp", "/usr", "/usr/bin", "/usr/lib", "/usr/local", "/usr/local/bin",
  "/usr/local/sbin", "/usr/sbin", "/usr/share", "/var", "/var/log", "/var/tmp"]

/-- Links, with the paths that they hold. -/
def usualLinks : List (String × String) := [
  ("/bin", "usr/bin"), ("/lib", "usr/lib"), ("/sbin", "usr/sbin"), ("/dev/fd", "/proc/self/fd"),
  ("/dev/stdin", "/proc/self/fd/0"), ("/dev/stdout", "/proc/self/fd/1"),
  ("/dev/stderr", "/proc/self/fd/2")]

def usualDevices : List (String × Device) := [
  ("/dev/null", .null), ("/dev/zero", .zero), ("/dev/full", .full), ("/dev/random", .zero),
  ("/dev/urandom", .zero), ("/dev/tty", .terminal), ("/proc/self/fd/0", .descriptor 0),
  ("/proc/self/fd/1", .descriptor 1), ("/proc/self/fd/2", .descriptor 2)]

def mountTablePath : String := "/proc/mounts"

def containerMounts : String := String.join [
  "overlay / overlay rw,relatime 0 0\n",
  "proc /proc proc rw,nosuid,nodev,noexec,relatime 0 0\n",
  "tmpfs /dev tmpfs rw,nosuid,size=65536k,mode=755 0 0\n",
  "devpts /dev/pts devpts rw,nosuid,noexec,relatime,gid=5,mode=620,ptmxmode=666 0 0\n",
  "sysfs /sys sysfs ro,nosuid,nodev,noexec,relatime 0 0\n",
  "cgroup /sys/fs/cgroup cgroup2 ro,nosuid,nodev,noexec,relatime 0 0\n",
  "mqueue /dev/mqueue mqueue rw,nosuid,nodev,noexec,relatime 0 0\n",
  "shm /dev/shm tmpfs rw,nosuid,nodev,noexec,relatime,size=65536k 0 0\n"]

def usualTexts : List (String × String) := [
  ("/etc/group", "root:x:0:\n"), ("/etc/passwd", "root:x:0:0:root:/root:/bin/sh\n"),
  (mountTablePath, containerMounts)]

def usualPrograms : List String := [
  "[", "arch", "awk", "base64", "basename", "cat", "chmod", "cksum", "cmp", "comm", "cp", "cut",
  "dash", "date", "dd", "diff", "dirname", "echo", "egrep", "env", "expand", "expr", "false",
  "fgrep", "find", "fold", "grep", "groups", "head", "hostname", "id", "install", "join", "link",
  "ln", "ls", "mawk", "md5sum", "mkdir", "mktemp", "mv", "nice", "nl", "nohup", "nproc", "od",
  "paste", "printenv", "printf", "pwd", "readlink", "realpath", "rev", "rm", "rmdir", "sed",
  "seq", "setsid", "sh", "sha1sum", "sha256sum", "sleep", "sort", "split", "stat", "stdbuf",
  "sync", "tac", "tail", "tee", "test", "timeout", "touch", "tr", "true", "truncate", "tty",
  "uname", "unexpand", "uniq", "unlink", "wc", "which", "whoami", "xargs", "yes"]

def usual : FileSystem :=
  let put (fs : FileSystem) (path : String) (node : Node) : FileSystem :=
    (fs.makeNode path node).toOption.getD fs
  let fs := usualDirectories.foldl (fun fs path => put fs path .emptyDirectory) empty
  let fs := usualLinks.foldl (fun fs (path, target) => put fs path (.link target)) fs
  let fs := usualDevices.foldl (fun fs (path, d) => put fs path (.device d)) fs
  let fs := usualTexts.foldl (fun fs (path, text) =>
    put fs path (.ofBytes (Utf8.encodeString text) false)) fs
  usualPrograms.foldl (fun fs name =>
    put fs ("/usr/bin/" ++ name) ⟨.program name, Node.openMode, 0⟩) fs

end BoardRig.FileSystem
