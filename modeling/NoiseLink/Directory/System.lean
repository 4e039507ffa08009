import NoiseLink.Directory

namespace NoiseLink.Directory

def placesIn (folder names : String) : List Location :=
  (names.splitOn " ").map fun name => ofNames folder ++ ofNames name

def systemTexts : List Location :=
  placesIn "etc" (
    "bash.bashrc debian_version group gshadow host.conf hostname hosts issue issue.net ld.so.conf login.defs " ++
    "nsswitch.conf os-release passwd profile resolv.conf shadow shells timezone") ++
  placesIn "proc" (
    "buddyinfo cgroups cmdline consoles cpuinfo crypto devices diskstats execdomains filesystems interrupts iomem " ++
    "ioports key-users kallsyms loadavg meminfo misc mounts net/dev net/route net/tcp net/udp net/unix pagetypeinfo " ++
    "partitions schedstat slabinfo softirqs stat swaps timer_list uptime version vmallocinfo vmstat zoneinfo") ++
  placesIn "proc/self" (
    "cgroup cmdline comm coredump_filter cpuset environ gid_map io limits loginuid maps mountinfo mounts mountstats " ++
    "numa_maps oom_adj oom_score oom_score_adj personality sched schedstat sessionid setgroups smaps smaps_rollup " ++
    "stat statm status syscall timerslack_ns uid_map wchan") ++
  placesIn "proc/sys/kernel"
    "hostname osrelease ostype pid_max random/boot_id random/uuid threads-max version"

def systemBlanks : List Location := placesIn "etc" "environment fstab machine-id"

def systemPrograms : List Location :=
  placesIn "usr/bin" (
    "awk base64 bash basename cat chmod chown cmp cp cut dash date dd df diff dirname du echo env expr false " ++
    "find grep gzip head hostname id install kill ln login ls md5sum mkdir mktemp mount mv nl nproc od paste perl " ++
    "printenv printf pwd readlink realpath rm rmdir sed seq sh sha256sum sleep sort split stat stty su sync tac " ++
    "tail tar tee test timeout touch tr true tty umount uname uniq wc whoami xargs yes") ++
  placesIn "usr" "lib64/ld-linux-x86-64.so.2 lib/x86_64-linux-gnu/libc.so.6" ++
  placesIn "proc/self" "auxv exe"

def systemFolders : List Location :=
  placesIn "" "boot home media mnt opt root run/lock srv tmp" ++
  placesIn "dev" "mqueue pts shm" ++
  placesIn "etc" (
    "alternatives apt cron.d cron.daily default dpkg init.d ld.so.conf.d opt pam.d profile.d security " ++
    "skel ssl") ++
  placesIn "proc"
    "1 fs irq net self/attr self/fd self/fdinfo self/map_files self/ns self/task sys/fs sys/net sys/vm tty" ++
  placesIn "sys" "block bus class dev devices firmware fs/cgroup kernel module power" ++
  placesIn "usr" "bin games include lib lib64 libexec local/bin local/etc local/lib local/share sbin share/doc src" ++
  placesIn "var" "backups cache lib local log mail opt spool tmp"

def ofFiles (files : List (Location × Bytes)) : Directory :=
  let home := ofNames "tmp/working-directory"
  let link (name target : String) := (ofNames name, ofNames target)
  { files := files.map (fun (loc, content) => (home ++ loc, content)) ++
      systemTexts.map (·, Text.utf8 "text".toList) ++ systemBlanks.map (·, []) ++ systemPrograms.map (·, [0xff])
    devices := (placesIn "dev" "full null random stdin urandom zero").map (·, .sink) ++
      (["dev/stdout", "proc/self/fd/1"].map fun name => (ofNames name, .console)) ++
      [(ofNames "dev/tty", .detached)]
    folders := systemFolders
    links := [link "bin" "usr/bin", link "lib" "usr/lib", link "lib64" "usr/lib64", link "sbin" "usr/sbin",
      link "var/run" "run", link "var/lock" "run/lock", link "dev/fd" "proc/self/fd", link "etc/mtab" "proc/mounts"]
    closed := [(ofNames "proc", .noSuchFile), (ofNames "sys", .permissionDenied),
      (ofNames "dev/pts", .permissionDenied)]
    boundless := placesIn "" "proc sys"
    home }

end NoiseLink.Directory
