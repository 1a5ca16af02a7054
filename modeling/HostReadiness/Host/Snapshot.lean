import HostReadiness.Host.Basic
import HostReadiness.Json.Number

/-! Snapshots: JSON documents that tell what the utilities of a host print and what its files hold. -/

namespace HostReadiness

namespace Snapshot

def output? (entry : Json) : Option Output :=
  match entry.given? "stdout_hex", entry.given? "stdout" with
  | some (.text hex), _ => (Numeral.readBytes? hex.toList).map .bytes
  | none, some (.text content) => some (.text content)
  | none, none => some .absent
  | _, _ => none

/-- What a command entry records. A refusal comes before a timeout, and both before an end. -/
def command? (entry : Json) : Option (List String × CommandReply) := do
  let argv ← (← entry.member? "argv").toTexts?
  match entry.given? "error" with
  | some name => return (argv, .refused (← Errno.ofName? (← name.toText?)))
  | none =>
    if entry.member? "timeout" matches some (.bool true) then return (argv, .hangs)
    else
      let code ← ((entry.given? "code").getD (.integer 0)).toInt?
      return (argv, .ends code (← output? entry))

def errno? (entry : Json) (key : String) : Option (Option Errno) :=
  match entry.given? key with
  | some name => do return some (← Errno.ofName? (← name.toText?))
  | none => some none

def file? (entry : Json) : Option FileReply := do
  match ← errno? entry "open_error", ← errno? entry "read_error" with
  | some errno, _ => return .refused errno
  | none, some errno => return .unreadable errno
  | none, none =>
    match entry.given? "hex" with
    | some hex => return .holds (← Numeral.readBytes? (← hex.toText?).toList)
    | none => return .holds (← ((entry.given? "text").getD (.text "")).toText?).toUTF8.toList

/-- What a file entry records about looking the file up. A file that is not there to be opened is not
there at all. -/
def stat? (entry : Json) : Option (Option Errno) := do
  match ← errno? entry "stat_error", ← errno? entry "open_error" with
  | some errno, _ => return some errno
  | none, some errno => return if errno = .notFound then some errno else none
  | none, none => return none

end Snapshot

/-- The host that a snapshot describes. What it does not mention is not there. -/
def Host.ofSnapshot? (snapshot : Json) : Option Host := do
  let commands ← (← ((snapshot.given? "commands").getD (.array [])).toArray?).mapM
    Snapshot.command?
  let entries ← match (snapshot.given? "files").getD (.object []) with
    | .object members => some members
    | _ => none
  let files ← entries.mapM fun (path, entry) => do return (path, ← Snapshot.file? entry)
  let stats ← entries.mapM fun (path, entry) => do return (path, ← Snapshot.stat? entry)
  return {
    command := fun argv => (commands.lookup argv).getD (.refused .notFound)
    file := fun path => (files.lookup path).getD (.refused .notFound)
    stat := fun path => (stats.lookup path).getD (some .notFound) }

end HostReadiness
