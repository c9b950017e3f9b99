import CallbackWeave.Programs

/-!
What stands around the files of a user on a usual host: the directories of the system with the programs
in them, the devices, and what the system tells about a process.
-/

namespace CallbackWeave

namespace Surroundings

/-- The names of the programs. -/
def programs : List String :=
  ["[", "addpart", "addr2line", "apt", "ar", "arch", "as", "b2sum", "base32", "base64", "basename",
    "basenc", "bash", "c++filt", "cat", "chcon", "chgrp", "chmod", "choom", "chown", "chrt",
    "cksum", "cmp", "comm", "cp", "cpp-13", "csplit", "cut", "dash", "date", "dd", "delpart", "df",
    "diff", "diff3", "dir", "dircolors", "dirname", "dmesg", "dnsdomainname", "domainname", "dpkg",
    "du", "dwp", "echo", "elfedit", "env", "expand", "expr", "factor", "fallocate", "false", "find",
    "findmnt", "flock", "fmt", "fold", "free", "gcc-13", "getconf", "getent", "getopt", "gmake",
    "gold", "gprof", "grep", "groups", "gunzip", "gzexe", "gzip", "hardlink", "head", "hostid",
    "hostname", "iconv", "id", "install", "ionice", "ipcmk", "ipcrm", "ipcs", "ischroot", "join",
    "kill", "last", "lastb", "ld", "ld.bfd", "ld.gold", "ld.so", "ldd", "link", "ln", "locale",
    "localedef", "logname", "ls", "lto-dump", "lto-dump-13", "make", "make-first-existing-target",
    "mawk", "mcookie", "md5sum", "mesg", "mkdir", "mkfifo", "mknod", "mktemp", "more", "mountpoint",
    "mv", "namei", "nice", "nisdomainname", "nl", "nm", "nohup", "nproc", "nsenter", "numfmt",
    "objcopy", "objdump", "od", "partx", "paste", "pathchk", "perl", "pgrep", "pidwait", "pinky",
    "pkill", "pldd", "pmap", "pr", "printenv", "printf", "prlimit", "ps", "ptx", "pwd", "pwdx",
    "ranlib", "readelf", "readlink", "realpath", "resizepart", "rev", "rm", "rmdir", "run-parts",
    "runcon", "savelog", "sdiff", "sed", "seq", "setarch", "setpriv", "setsid", "setterm",
    "sha1sum", "sha224sum", "sha256sum", "sha384sum", "sha512sum", "shred", "shuf", "size", "skill",
    "slabtop", "sleep", "snice", "sort", "split", "stat", "stdbuf", "strings", "strip", "stty",
    "su", "sum", "sync", "tac", "tail", "tar", "taskset", "tee", "test", "timeout", "tload", "top",
    "touch", "tr", "true", "truncate", "tsort", "tty", "tzselect", "uclampset", "uname",
    "uncompress", "unexpand", "uniq", "unlink", "unshare", "update-alternatives", "uptime", "users",
    "utmpdump", "vdir", "vmstat", "w", "watch", "wc", "wdctl", "whereis", "which", "who", "whoami",
    "xargs", "yes", "ypdomainname", "zcat", "zcmp", "zdiff", "zdump", "zegrep", "zfgrep", "zforce",
    "zgrep", "zless", "zmore", "znew"]

/-- The programs that have further names, each with the file or link that it stands for. -/
def programLinks : List (String × String) :=
  [("sh", "dash"), ("awk", "/etc/alternatives/awk"), ("nawk", "/etc/alternatives/nawk"),
    ("cc", "/etc/alternatives/cc"), ("gcc", "gcc-13"), ("cpp", "cpp-13"), ("rbash", "bash"),
    ("x86_64-linux-gnu-gcc", "gcc-13"), ("x86_64-linux-gnu-cpp", "cpp-13")]

/-- The scripts that stand among the programs. -/
def scripts : List (String × String) :=
  [("egrep", "-E"), ("fgrep", "-F"), ("rgrep", "-r")].map fun (name, option) =>
    (name, "#!/bin/sh\ncmd=$\x7b0##*/\x7d\nexec grep " ++ option ++ " \"$@\"\n")

/-- Links of the system. -/
def links : List (Location × String) :=
  [(["bin"], "usr/bin"), (["sbin"], "usr/sbin"), (["lib"], "usr/lib"), (["lib64"], "usr/lib64"),
    (["var", "run"], "/run"), (["var", "lock"], "/run/lock"), (["etc", "mtab"], "/proc/mounts"),
    (["etc", "os-release"], "../usr/lib/os-release"),
    (["etc", "alternatives", "awk"], "/usr/bin/mawk"),
    (["etc", "alternatives", "nawk"], "/usr/bin/mawk"),
    (["etc", "alternatives", "cc"], "/usr/bin/gcc"), (["dev", "fd"], "/proc/self/fd"),
    (["dev", "stdin"], "/proc/self/fd/0"), (["dev", "stdout"], "/proc/self/fd/1"),
    (["dev", "stderr"], "/proc/self/fd/2"), (["proc", "mounts"], "self/mounts"),
    (["proc", "self"], "4241")]

/-- Directories of the system. -/
def directories : List Location :=
  [["usr"], ["usr", "bin"], ["usr", "sbin"], ["usr", "lib"], ["usr", "lib64"], ["usr", "libexec"],
    ["usr", "local"], ["usr", "local", "bin"], ["usr", "local", "sbin"], ["usr", "local", "lib"],
    ["usr", "local", "share"], ["usr", "local", "include"], ["usr", "share"],
    ["usr", "share", "doc"], ["usr", "share", "man"], ["usr", "share", "misc"], ["usr", "src"],
    ["usr", "games"], ["usr", "include"], ["usr", "include", "linux"], ["usr", "include", "sys"],
    ["usr", "include", "asm-generic"], ["etc"], ["etc", "alternatives"], ["etc", "default"],
    ["etc", "init.d"], ["etc", "skel"], ["etc", "ssl"], ["etc", "apt"], ["tmp"], ["var"],
    ["var", "tmp"], ["var", "log"], ["var", "lib"], ["var", "cache"], ["var", "spool"],
    ["var", "mail"], ["var", "opt"], ["var", "local"], ["var", "backups"], ["run"],
    ["run", "lock"], ["root"], ["home"], ["opt"], ["srv"], ["mnt"], ["media"], ["boot"], ["sys"],
    ["dev"], ["dev", "pts"], ["dev", "shm"], ["dev", "mqueue"], ["proc"], ["proc", "4241"],
    ["proc", "4241", "fd"], ["proc", "4241", "task"], ["proc", "1"], ["proc", "sys"]]

/-- Headers of the language whose sources are preprocessed. -/
def headers : List String :=
  ["assert.h", "ctype.h", "dirent.h", "errno.h", "fcntl.h", "features.h", "float.h", "inttypes.h",
    "limits.h", "locale.h", "math.h", "pthread.h", "setjmp.h", "signal.h", "stdarg.h", "stdbool.h",
    "stddef.h", "stdc-predef.h", "stdint.h", "stdio.h", "stdlib.h", "string.h", "strings.h", "time.h",
    "unistd.h", "wchar.h", "wctype.h"]

/-- Files of the system in which there is nothing to be read here, but that there are. -/
def files : List Location :=
  headers.map (["usr", "include", ·])
    ++ ["status", "stat", "statm", "maps", "cmdline", "environ", "mounts", "comm", "limits"].map
      (["proc", "4241", ·])
    ++ ["cpuinfo", "meminfo", "version", "uptime", "stat", "loadavg", "filesystems"].map (["proc", ·])
    ++ [["usr", "lib", "os-release"]]
    ++ ["hosts", "hostname", "resolv.conf", "fstab", "shadow", "profile", "bash.bashrc", "environment",
      "shells", "nsswitch.conf", "debian_version", "ld.so.cache", "ld.so.conf", "machine-id",
      "issue", "networks", "services", "protocols", "host.conf", "login.defs"].map (["etc", ·])

/-- The devices, each at its place. -/
def devices : List (Location × Device) :=
  [(["dev", "null"], .null), (["dev", "zero"], .zero), (["dev", "full"], .full),
    (["dev", "random"], .zero), (["dev", "urandom"], .zero), (["dev", "tty"], .null),
    (["proc", "4241", "fd", "0"], .input), (["proc", "4241", "fd", "1"], .output),
    (["proc", "4241", "fd", "2"], .messages)]

/-- The list of users. -/
def users : String :=
  "root:x:0:0:root:/root:/bin/bash\n" ++ "daemon:x:1:1:daemon:/usr/sbin:/usr/sbin/nologin\n"
    ++ "bin:x:2:2:bin:/bin:/usr/sbin/nologin\n" ++ "sys:x:3:3:sys:/dev:/usr/sbin/nologin\n"
    ++ "nobody:x:65534:65534:nobody:/nonexistent:/usr/sbin/nologin\n"

/-- The list of groups. -/
def groups : String := "root:x:0:\ndaemon:x:1:\nbin:x:2:\nsys:x:3:\nnogroup:x:65534:\n"

/-- All that stands there whatever the working directory is. -/
def fixed : List (Location × Entry) :=
  directories.map (fun place => (place, .directory))
    ++ links.map (fun (place, target) => (place, .link ⟨target⟩))
    ++ programLinks.map (fun (name, target) => (["usr", "bin", name], .link ⟨target⟩))
    ++ programs.map (fun name => (["usr", "bin", name], .file (Programs.contentOf name) true))
    ++ scripts.map (fun (name, text) => (["usr", "bin", name], .file (Utf8.encode text) true))
    ++ devices.map (fun (place, _) => (place, .file [] false))
    ++ files.map (fun place => (place, .file [] false))
    ++ [(["etc", "passwd"], .file (Utf8.encode users) false),
      (["etc", "group"], .file (Utf8.encode groups) false)]

/-- The tree around a working directory. -/
def tree (workingDirectory : Location) : FileTree :=
  let path : Path := ⟨"/" ++ "/".intercalate workingDirectory⟩
  (⟨[(["proc", "4241", "cwd"], .link path), (["proc", "4241", "root"], .link ⟨"/"⟩),
    (["proc", "4241", "exe"], .link ⟨"/usr/bin/dash"⟩)] ++ fixed⟩ : FileTree)

/-- What a program sees from a working directory. -/
def site (workingDirectory : Location) : Site := ⟨workingDirectory, devices⟩

/-- An empty working directory with all that is around it. -/
def fileSystem (workingDirectory : Location) : FileSystem :=
  let around := (tree workingDirectory).withAncestors workingDirectory
  ⟨site workingDirectory, around.put workingDirectory .directory⟩

end Surroundings

end CallbackWeave
