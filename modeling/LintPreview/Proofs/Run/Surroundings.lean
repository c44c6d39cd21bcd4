import LintPreview.Catalog.Basic
import LintPreview.Proofs.Run.Basic

/-!
# What services can meet

* `Host.Answers`: the answers of a disk. Every change can fail; a write that fails leaves anything in its file.
* `Workplace.Answers`: the answers to a service that nobody cancels. The lint tool and the network reply whatever they
  like, an errand is some run of its program, and the catalog does what it is told.
* `Host.isTotal_answers`, `Workplace.isTotal_answers`: every act gets some reply.
-/

namespace LintPreview

/-- A time on a day of the calendar, in universal time. -/
inductive Moment.IsUniversal : Moment → Prop where
  | time {d : Day} {c : Clock} (year : 1 ≤ d.year ∧ d.year ≤ 9999) (month : 1 ≤ d.month ∧ d.month ≤ 12)
      (day : 1 ≤ d.day ∧ d.day ≤ Day.monthLength d.year d.month) (hour : c.hour < 24) (minute : c.minute < 60)
      (second : c.second < 60) (micro : c.micro < 1000000) : IsUniversal (.time d c (some 0))

namespace Host

open Program (World Runs)

/-- The name of a file that is made for a while: any text stands between its fixed parts. -/
def temporaryNameOf (middle : Text) : Text := ".rules-" ++ middle ++ ".json"

/-- The path of such a file. -/
def temporaryPath (directory : Path) (middle : Text) : Text := below directory.toString (temporaryNameOf middle)

/-- The answers of a disk. A file that is made for a while gets any name that is free. On a flaky disk, reading a file
can fail although the file is there. -/
def Answers (flaky : Bool) : World DiskAct DiskAct.Reply Host
  | .now, h, m, h' => m.IsUniversal ∧ h' = { h with moment := m }
  | .read path, h, reply, h' =>
    h' = h ∧ (reply = h.files.readBytes path ∨ flaky = true ∧ ∃ fault, reply = .error fault)
  | .makeDirectories path, h, reply, h' =>
    (reply, h') = h.changed (h.files.withDirectory path) ∨ (∃ fault, reply = .error fault) ∧ h' = h
  | .makeTemporary directory, h, reply, h' =>
    (∃ middle loc, .char '/' ∉ middle.toList ∧ reply = .ok (temporaryPath directory middle) ∧
      h.files.locate (Path.ofString (temporaryPath directory middle)) = .ok loc ∧ h.files.get? loc = none ∧
      h' = { h with files := h.files.put loc (.file [] false) }) ∨
    (∃ fault, reply = .error fault) ∧ h' = h
  | .write path content, h, reply, h' =>
    (reply, h') = answerDisk (.write path content) h ∨
    (∃ fault, reply = .error fault) ∧ ∃ bytes, h' = (h.changed (h.files.write path bytes)).2
  | .replace source target, h, reply, h' =>
    (reply, h') = h.changed (h.files.replace source target) ∨ (∃ fault, reply = .error fault) ∧ h' = h
  | .remove path, h, reply, h' =>
    (reply, h') = h.changed (h.files.removeFile path) ∨ (∃ fault, reply = .error fault) ∧ h' = h

/-- The first moment of the year 1970 is one in universal time. -/
theorem isUniversal_moment : ({} : Host).moment.IsUniversal := by
  constructor <;> decide

theorem isTotal_answers (flaky : Bool) : (Answers flaky).IsTotal := by
  rintro (_ | path | path | directory | ⟨path, content⟩ | ⟨source, target⟩ | path) h
  case now => exact ⟨_, _, isUniversal_moment, rfl⟩
  case read => exact ⟨h.files.readBytes path, h, rfl, .inl rfl⟩
  case makeDirectories => exact ⟨_, _, .inl rfl⟩
  case makeTemporary => exact ⟨.error .embeddedNull, h, .inr ⟨⟨_, rfl⟩, rfl⟩⟩
  case write => exact ⟨_, _, .inl rfl⟩
  case replace => exact ⟨_, _, .inl rfl⟩
  case remove => exact ⟨_, _, .inl rfl⟩

end Host

/-- What a service works on: the catalog in memory, and the machine. -/
structure Workplace where
  catalog : Catalog := {}
  host : Host := {}

namespace Workplace

/-- The workplace while a load is going on, or is not. -/
def loading (p : Workplace) (isLoading : Bool) : Workplace :=
  { p with catalog := { p.catalog with isLoading } }

open Program (World Runs)

/-- The answers to a service that nobody cancels, on a given kind of disk. -/
def Answers (disk : World DiskAct DiskAct.Reply Host) : World ServiceAct ServiceAct.Reply Workplace
  | .clock, p, _, p' => p' = p
  | .now, p, _, p' => p' = p
  | .log _, p, _, p' => p' = p
  | .report _ _ _, p, _, p' => p' = p
  | .errand work, p, reply, p' =>
    ∃ events result, Program.Runs disk work.program p.host events result p'.host ∧
      reply = result.mapError .failed ∧ p'.catalog = p.catalog
  | .isDirectory path, p, reply, p' => reply = p.host.files.checkDirectory path ∧ p' = p
  | .makeScratch label, p, reply, p' =>
    (∃ path host, p.host.makeScratch label = .ok (path, host) ∧ reply = .ok path ∧ p' = { p with host }) ∨
    (∃ f, reply = .error f) ∧ p' = p
  | .removeTree path, p, _, p' => p' = { p with host := p.host.removeTree path }
  | .listRules, p, reply, p' => reply ≠ .error .cancelled ∧ p' = p
  | .version, p, reply, p' => reply ≠ .error .cancelled ∧ p' = p
  | .lint _ _, p, reply, p' => reply ≠ .error .cancelled ∧ p' = p
  | .startDetails _ _, p, _, p' => p' = p
  | .awaitDetails, p, reply, p' => reply ≠ .error .cancelled ∧ p' = p
  | .send _, p, reply, p' => reply ≠ .error (.stopped .cancelled) ∧ p' = p
  | .receive _, p, reply, p' => reply ≠ .error (.stopped .cancelled) ∧ p' = p
  | .drain _, p, reply, p' => reply ≠ .error (.stopped .cancelled) ∧ p' = p
  | .enterLoad, p, reply, p' => reply = .ok () ∧ p' = p.loading true
  | .leaveLoad, p, _, p' => p' = p.loading false
  | .putRules rules, p, _, p' => p' = { p with catalog := p.catalog.replace rules }
  | .rules, p, reply, p' => reply = p.catalog.rules ∧ p' = p

theorem isTotal_answers {disk : World DiskAct DiskAct.Reply Host} (hdisk : disk.IsTotal) :
    (Answers disk).IsTotal := by
  intro act p
  cases act
  case errand work =>
    obtain ⟨events, result, host, h⟩ := Program.exists_runs hdisk work.program p.host
    exact ⟨_, { p with host }, events, result, h, rfl, rfl⟩
  case isDirectory path => exact ⟨_, p, rfl, rfl⟩
  case makeScratch label => exact ⟨.error (.general ""), p, .inr ⟨⟨_, rfl⟩, rfl⟩⟩
  case listRules => exact ⟨.ok "", p, nofun, rfl⟩
  case version => exact ⟨.ok "", p, nofun, rfl⟩
  case lint => exact ⟨.ok "", p, nofun, rfl⟩
  case awaitDetails => exact ⟨.ok (0, .ok ""), p, nofun, rfl⟩
  case send => exact ⟨.error .timedOut, p, nofun, rfl⟩
  case receive => exact ⟨.error .timedOut, p, nofun, rfl⟩
  case drain => exact ⟨.error .timedOut, p, nofun, rfl⟩
  case enterLoad => exact ⟨.ok (), _, rfl, rfl⟩
  case rules => exact ⟨_, p, rfl, rfl⟩
  case now => exact ⟨p.host.moment, p, rfl⟩
  case clock => exact ⟨(0 : Nat), p, rfl⟩
  all_goals exact ⟨(), _, rfl⟩

end Workplace

end LintPreview
