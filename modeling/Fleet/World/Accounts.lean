import Fleet.World.FileTree

/-!
# Users and groups

The users that every system has, with the groups that they belong to. The program and its scripts
run as the first one, whom permissions never refuse anything (see `FileTree`).
-/

namespace Fleet

/-- A user of the system, with the one group that it belongs to. -/
structure Account : Type where
  name : String
  number : Nat
  group : String
  groupNumber : Nat
  /-- What the user is for, in words. -/
  remark : String
  home : String
  /-- The program that the user works with. -/
  shell : String := "/usr/sbin/nologin"
  deriving Repr

namespace Account

/-- The user that runs scripts. -/
def own : Account :=
  ⟨"root", 0, "root", 0, "root", "/root", "/bin/bash"⟩

/-- An account that belongs to a part of the system and has a group of its own. -/
def service (name : String) (number : Nat) (home : String) : Account :=
  { name, number, group := name, groupNumber := number, remark := name, home }

/-- The users that every system has. -/
def all : List Account :=
  [own, service "daemon" 1 "/usr/sbin", service "bin" 2 "/bin", service "sys" 3 "/dev",
    ⟨"sync", 4, "nogroup", 65534, "sync", "/bin", "/bin/sync"⟩,
    { service "games" 5 "/usr/games" with groupNumber := 60 },
    { service "man" 6 "/var/cache/man" with groupNumber := 12 },
    service "lp" 7 "/var/spool/lpd", service "mail" 8 "/var/mail",
    service "news" 9 "/var/spool/news", service "uucp" 10 "/var/spool/uucp",
    service "proxy" 13 "/bin", service "www-data" 33 "/var/www",
    service "backup" 34 "/var/backups",
    { service "list" 38 "/var/list" with remark := "Mailing List Manager" },
    { service "irc" 39 "/run/ircd" with remark := "ircd" },
    ⟨"_apt", 42, "nogroup", 65534, "", "/nonexistent", "/usr/sbin/nologin"⟩,
    { service "nobody" 65534 "/nonexistent" with group := "nogroup" }]

/-- The line of an account in the list of all of them. -/
def line (a : Account) : String :=
  String.intercalate ":"
    [a.name, "x", toString a.number, toString a.groupNumber, a.remark, a.home, a.shell] ++ "\n"

/-- Groups that nobody belongs to at first. -/
def otherGroups : List (String × Nat) :=
  [("adm", 4), ("tty", 5), ("disk", 6), ("kmem", 15), ("dialout", 20), ("fax", 21), ("voice", 22),
    ("cdrom", 24), ("floppy", 25), ("tape", 26), ("sudo", 27), ("audio", 29), ("dip", 30),
    ("operator", 37), ("src", 40), ("shadow", 42), ("utmp", 43), ("video", 44), ("sasl", 45),
    ("plugdev", 46), ("staff", 50), ("users", 100)]

/-- All groups, by their numbers. -/
def groups : List (String × Nat) :=
  let own := (all.map fun a => (a.group, a.groupNumber)).eraseDups
  (own ++ otherGroups).mergeSort fun a b => a.2 ≤ b.2

/-- The line of a group in the list of all of them. -/
def groupLine (group : String × Nat) : String :=
  s!"{group.1}:x:{group.2}:\n"

end Account

end Fleet
