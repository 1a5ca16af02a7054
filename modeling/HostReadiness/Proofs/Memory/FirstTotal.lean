import HostReadiness.Proofs.Memory.Sources
import HostReadiness.Proofs.Reading.TotalLine
import HostReadiness.Proofs.Text.Front

/-! The total of the kernel's report is the one on the first line that states one. Once that line is
settled in the front of the report, nothing behind the front changes what comes of the check. -/

namespace HostReadiness

def Site.holding (site : Site) (path : String) (bytes : List UInt8) : Site :=
  { site with host := { site.host with
    file := fun asked => if asked = path then .holds bytes else site.host.file asked } }

theorem Host.readLines_of_holds {host : Host} {path : String} {bytes : List UInt8}
    (held : host.file path = .holds bytes) :
    host.readLines path = .ok ⟨(Text.readLines bytes).1, (Text.readLines bytes).2.map .notUtf8⟩ := by
  rw [Host.readLines, held]

theorem Site.file_holding (site : Site) (path : String) (bytes : List UInt8) :
    (site.holding path bytes).host.file path = .holds bytes :=
  if_pos rfl

namespace Memory
open Numeral Reading Text

def judgedTotal (setup : Setup) (ds : List Char) : Except Fault String :=
  if maxDigits < ds.length then .error (.digitLimit (.reading ds.length))
  else if placeValue ds = 0 then .error (.noMemoryTotal setup.locations.meminfo)
  else verdict setup.requirements.toThresholds (placeValue ds) kernelWiggleRoom

section
variable {setup : Setup} {site : Site}
variable (nothing : ((firmwareKib setup.locations).run site).outcome = .ok 0)
include nothing

theorem outcome_of_nothing :
    ((probe setup).run site).outcome =
      (kernelTotal setup.locations.meminfo (site.host.readLines setup.locations.meminfo)).bind
        (verdict setup.requirements.toThresholds · kernelWiggleRoom) := by
  rw [(run_firmwareKib site setup.locations).1] at nothing
  exact (run_probe_of_nothing nothing).1

theorem outcome_of_firstTotal {reading : LineReading} {ds : List Char}
    (opened : site.host.readLines setup.locations.meminfo = .ok reading)
    (first : FirstTotal reading.lines ds) :
    ((probe setup).run site).outcome = judgedTotal setup ds := by
  rw [← findSome?_memTotal?_eq_some_iff] at first
  rw [outcome_of_nothing nothing, opened, judgedTotal]
  rcases Nat.lt_or_ge maxDigits ds.length with long | short
  · rw [kernelTotal_of_tooLong first long, if_pos long]
    rfl
  · rw [kernelTotal_of_first first short, if_neg (Nat.not_lt_of_le short), ofDigits_eq_placeValue]
    split_ifs
    · rfl
    · rfl

theorem nothing_holding (bytes : List UInt8) :
    ((firmwareKib setup.locations).run (site.holding setup.locations.meminfo bytes)).outcome =
      .ok 0 := by
  rw [(run_firmwareKib _ _).1] at nothing ⊢
  exact nothing

/-- A total that is settled in the front of the report decides. -/
theorem outcome_of_front {bytes : List UInt8} {count : Nat} {chars ds : List Char}
    {pending : Utf8.State}
    (decoded : Utf8.feed .idle (bytes.take (pieceSize * count)) = .ok (chars, pending))
    (first : FirstTotal (completeLines (settled chars)) ds) :
    ((probe setup).run (site.holding setup.locations.meminfo bytes)).outcome =
      judgedTotal setup ds := by
  obtain ⟨later, fault, read⟩ := exists_readLines decoded
  have opened := Host.readLines_of_holds (site.file_holding setup.locations.meminfo bytes)
  rw [read] at opened
  exact outcome_of_firstTotal (nothing_holding nothing bytes) opened (first.append later)

/-- Where the front settles no total, bytes behind it that are no text are the verdict. -/
theorem outcome_of_fault {bytes : List UInt8} {count : Nat} {chars : List Char}
    {pending : Utf8.State} {fault : Utf8.Fault}
    (decoded : Utf8.feed .idle (bytes.take (pieceSize * count)) = .ok (chars, pending))
    (broken : Decoder.feedAll ⟨pending, (unifyPiece false chars).2⟩
      (pieces (bytes.drop (pieceSize * count))) = ([], some fault))
    (silent : ∀ line ∈ completeLines (settled chars), ∀ ds, ¬StatesTotal line ds) :
    ((probe setup).run (site.holding setup.locations.meminfo bytes)).outcome =
      .error (.notUtf8 fault) := by
  have opened := Host.readLines_of_holds (site.file_holding setup.locations.meminfo bytes)
  rw [readLines_of_fault decoded broken] at opened
  have missing : (completeLines (settled chars)).findSome? memTotal? = none :=
    List.findSome?_eq_none_iff.mpr fun line member => memTotal?_eq_none_iff.mpr (silent line member)
  rw [outcome_of_nothing (nothing_holding nothing bytes), opened, kernelTotal_of_none missing]
  rfl

end

structure Decides (setup : Setup) (site : Site) (content other : List UInt8) (ds : List Char) :
    Prop where
  same : ((probe setup).run (site.holding setup.locations.meminfo content)).outcome =
    ((probe setup).run (site.holding setup.locations.meminfo other)).outcome
  amount : ds.length ≤ maxDigits → placeValue ds ≠ 0 →
    ((probe setup).run (site.holding setup.locations.meminfo content)).outcome =
      verdict setup.requirements.toThresholds (placeValue ds) kernelWiggleRoom
  zero : ds.length ≤ maxDigits → placeValue ds = 0 →
    ((probe setup).run (site.holding setup.locations.meminfo content)).outcome =
      .error (.noMemoryTotal setup.locations.meminfo)
  tooLong : maxDigits < ds.length →
    ((probe setup).run (site.holding setup.locations.meminfo content)).outcome =
      .error (.digitLimit (.reading ds.length))

/-- Of all lines the first that states a total counts. Where it is complete in the pieces that two
reports begin with, whatever stands behind those pieces makes no difference. -/
theorem first_total_decides :
    (∀ lines, TotalOf lines (memTotalOfLines lines)) ∧
      ∀ setup site count content other chars pending ds,
        ((firmwareKib setup.locations).run site).outcome = .ok 0 →
        content.take (pieceSize * count) = other.take (pieceSize * count) →
        Utf8.feed .idle (content.take (pieceSize * count)) = .ok (chars, pending) →
        FirstTotal (completeLines (settled chars)) ds →
        Decides setup site content other ds := by
  refine ⟨totalOf_memTotalOfLines, ?_⟩
  intro setup site count content other chars pending ds nothing common decoded first
  have judged := outcome_of_front nothing decoded first
  rw [common] at decoded
  have otherJudged := outcome_of_front nothing decoded first
  exact {
    same := judged.trans otherJudged.symm
    amount := by
      intro short nonzero
      rw [judged, judgedTotal, if_neg (Nat.not_lt_of_le short), if_neg nonzero]
    zero := by
      intro short zero
      rw [judged, judgedTotal, if_neg (Nat.not_lt_of_le short), if_pos zero]
    tooLong := by
      intro long
      rw [judged, judgedTotal, if_pos long] }

def bareSite : Site :=
  ⟨Host.empty, none⟩

theorem bareSite_nothing : ((firmwareKib Locations.default).run bareSite).outcome = .ok 0 := by
  decide +kernel

def afterEmptyLines (count : Nat) (bytes : List UInt8) : List UInt8 :=
  List.replicate count 10 ++ bytes

theorem feed_afterEmptyLines {count : Nat} {bytes : List UInt8} {decoded : List Char × Utf8.State}
    (read : Utf8.run count .idle bytes = .ok decoded) :
    Utf8.feed .idle (afterEmptyLines count bytes) =
      .ok (List.replicate count '\n' ++ decoded.1, decoded.2) := by
  have held : Utf8.State.held .idle + count = count := Nat.zero_add count
  rw [← held] at read
  exact run_lineFeeds count read

theorem take_afterEmptyLines {count : Nat} {bytes : List UInt8} (size : count + bytes.length = pieceSize)
    (behind : List UInt8) :
    (afterEmptyLines count bytes ++ behind).take (pieceSize * 1) = afterEmptyLines count bytes := by
  apply List.take_left'
  rw [afterEmptyLines, List.length_append, List.length_replicate, size, Nat.mul_one]

theorem firstTotal_afterLineFeeds {chars ds : List Char} (count : Nat)
    (first : (completeLines (settled chars)).findSome? memTotal? = some ds) :
    FirstTotal (completeLines (settled (List.replicate count '\n' ++ chars))) ds := by
  rw [settled_lineFeeds, completeLines_lineFeeds]
  exact (findSome?_memTotal?_eq_some_iff.mp first).after_emptyLines count

def endedTotal : List UInt8 :=
  [77, 101, 109, 84, 111, 116, 97, 108, 58, 57, 10]

theorem first_total_decides_before_garbage :
    let content := afterEmptyLines 8181 endedTotal ++ [0xff]
    let other := afterEmptyLines 8181 endedTotal ++ [0xe2, 0x82, 0xac]
    let chars := List.replicate 8181 '\n' ++ "MemTotal:9\n".toList
    ((firmwareKib Locations.default).run bareSite).outcome = .ok 0 ∧
      content.take (pieceSize * 1) = other.take (pieceSize * 1) ∧
      Utf8.feed .idle (content.take (pieceSize * 1)) = .ok (chars, .idle) ∧
      FirstTotal (completeLines (settled chars)) ['9'] ∧
      Decides ⟨.default, .default⟩ bareSite content other ['9'] := by
  intro content other chars
  have size : 8181 + endedTotal.length = pieceSize := rfl
  have front : content.take (pieceSize * 1) = afterEmptyLines 8181 endedTotal :=
    take_afterEmptyLines size [0xff]
  have otherFront : other.take (pieceSize * 1) = afterEmptyLines 8181 endedTotal :=
    take_afterEmptyLines size [0xe2, 0x82, 0xac]
  have common : content.take (pieceSize * 1) = other.take (pieceSize * 1) :=
    front.trans otherFront.symm
  have decoded : Utf8.feed .idle (content.take (pieceSize * 1)) = .ok (chars, .idle) := by
    have ended : Utf8.run 8181 .idle endedTotal = .ok ("MemTotal:9\n".toList, .idle) := by
      decide +kernel
    rw [front, feed_afterEmptyLines ended]
  have first : FirstTotal (completeLines (settled chars)) ['9'] :=
    firstTotal_afterLineFeeds 8181 (by decide +kernel)
  exact ⟨bareSite_nothing, common, decoded, first,
    first_total_decides.2 ⟨.default, .default⟩ bareSite 1 content other chars .idle ['9']
      bareSite_nothing common decoded first⟩

def returnedTotal : List UInt8 :=
  [77, 101, 109, 84, 111, 116, 97, 108, 58, 57, 13]

def cutCharacter : List UInt8 :=
  afterEmptyLines 8180 returnedTotal ++ [0xe2]

theorem cutCharacter_append (behind : List UInt8) :
    cutCharacter ++ behind = afterEmptyLines 8180 (returnedTotal ++ 0xe2 :: behind) := by
  unfold cutCharacter afterEmptyLines
  rw [List.append_assoc, List.append_assoc]
  rfl

theorem length_cutCharacter : cutCharacter.length = pieceSize := by
  rw [← List.append_nil cutCharacter, cutCharacter_append, afterEmptyLines, List.length_append,
    List.length_replicate]
  rfl

theorem feed_cutCharacter :
    Utf8.feed .idle cutCharacter =
      .ok (List.replicate 8180 '\n' ++ "MemTotal:9\r".toList, .owing 0xe2 1 2 2 0x80 0xbf) := by
  have begun : Utf8.run 8180 .idle (returnedTotal ++ [0xe2]) =
      .ok ("MemTotal:9\r".toList, .owing 0xe2 1 2 2 0x80 0xbf) := by decide +kernel
  rw [← List.append_nil cutCharacter, cutCharacter_append, feed_afterEmptyLines begun]

section
variable {setup : Setup} {site : Site}
variable (nothing : ((firmwareKib setup.locations).run site).outcome = .ok 0)
include nothing

/-- Once the character is complete, what follows the return is seen to be no line feed. -/
theorem outcome_of_completed :
    ((probe setup).run
        (site.holding setup.locations.meminfo (cutCharacter ++ [0x82, 0xac]))).outcome =
      judgedTotal setup ['9'] := by
  have taken : (cutCharacter ++ [0x82, 0xac]).take (pieceSize * 2) = cutCharacter ++ [0x82, 0xac] := by
    apply List.take_of_length_le
    rw [List.length_append, length_cutCharacter]
    decide
  have completed : Utf8.run 8180 .idle (returnedTotal ++ [0xe2, 0x82, 0xac]) =
      .ok ("MemTotal:9\r€".toList, .idle) := by decide +kernel
  have whole := feed_afterEmptyLines completed
  rw [← cutCharacter_append [0x82, 0xac], ← taken] at whole
  have first : (completeLines (settled "MemTotal:9\r€".toList)).findSome? memTotal? = some ['9'] := by
    decide +kernel
  exact outcome_of_front nothing whole (firstTotal_afterLineFeeds 8180 first)

/-- A byte that does not belong to the character comes to light before the line is complete. -/
theorem outcome_of_broken :
    ((probe setup).run (site.holding setup.locations.meminfo (cutCharacter ++ [0xff]))).outcome =
      .error (.notUtf8 ⟨0xe2, 0, 1, .invalidContinuation⟩) := by
  have size : cutCharacter.length = pieceSize * 1 := length_cutCharacter.trans (Nat.mul_one _).symm
  have taken : (cutCharacter ++ [0xff]).take (pieceSize * 1) = cutCharacter := List.take_left' size
  have left : (cutCharacter ++ [0xff]).drop (pieceSize * 1) = [0xff] := List.drop_left' size
  have decoded := feed_cutCharacter
  rw [← taken] at decoded
  apply outcome_of_fault nothing decoded
  · rw [left, pieces_of_ne_nil (List.cons_ne_nil _ _), List.drop_of_length_le (by decide), pieces_nil]
    rfl
  · have settledLines : completeLines (settled (List.replicate 8180 '\n' ++ "MemTotal:9\r".toList)) =
        List.replicate 8180 ['\n'] := by
      rw [settled_lineFeeds, completeLines_lineFeeds]
      exact List.append_nil _
    rw [settledLines]
    intro line member
    rw [(List.mem_replicate.mp member).2]
    exact not_statesTotal_emptyLine

end

/-- The return of a total at the end of the front may still belong to a line feed. With one byte of a
character behind it, the rest of that character decides whether the total is read at all. -/
theorem total_before_incomplete_character :
    let setup : Setup := ⟨.default, .default⟩
    let front := afterEmptyLines 8180 returnedTotal ++ [0xe2]
    let chars := List.replicate 8180 '\n' ++ "MemTotal:9\r".toList
    front.length = pieceSize ∧
      Utf8.feed .idle (afterEmptyLines 8180 returnedTotal) = .ok (chars, .idle) ∧
      Utf8.feed .idle front = .ok (chars, .owing 0xe2 1 2 2 0x80 0xbf) ∧
      FirstTotal (completeLines (unifyBreaks chars)) ['9'] ∧
      ((firmwareKib setup.locations).run bareSite).outcome = .ok 0 ∧
      ((probe setup).run
          (bareSite.holding setup.locations.meminfo (front ++ [0x82, 0xac]))).outcome =
        .ok ("Only 0MiB RAM detected. SaftOS requires at least 32GiB for testing and " ++
          "64GiB for production use.") ∧
      ((probe setup).run (bareSite.holding setup.locations.meminfo (front ++ [0xff]))).outcome =
        .error (.notUtf8 ⟨0xe2, 0, 1, .invalidContinuation⟩) := by
  intro setup front chars
  have decoded : Utf8.feed .idle (afterEmptyLines 8180 returnedTotal) = .ok (chars, .idle) := by
    have returned : Utf8.run 8180 .idle returnedTotal = .ok ("MemTotal:9\r".toList, .idle) := by
      decide +kernel
    rw [feed_afterEmptyLines returned]
  have total : FirstTotal (completeLines (unifyBreaks chars)) ['9'] := by
    have last : FirstTotal (completeLines (unifyBreaks "MemTotal:9\r".toList)) ['9'] :=
      findSome?_memTotal?_eq_some_iff.mp (by decide +kernel)
    rw [unifyBreaks_lineFeeds, completeLines_lineFeeds]
    exact last.after_emptyLines 8180
  have nothing : ((firmwareKib setup.locations).run bareSite).outcome = .ok 0 := bareSite_nothing
  have message : judgedTotal setup ['9'] =
      .ok ("Only 0MiB RAM detected. SaftOS requires at least 32GiB for testing and " ++
        "64GiB for production use.") := by decide +kernel
  exact ⟨length_cutCharacter, decoded, feed_cutCharacter, total, nothing,
    (outcome_of_completed nothing).trans message, outcome_of_broken nothing⟩

end Memory

end HostReadiness
