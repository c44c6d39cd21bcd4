import LintPreview.Proofs.Catalog.Atomic
import LintPreview.Proofs.Catalog.History
import LintPreview.Proofs.Catalog.Recall

/-!
# What happens to the file of a store

* `Store.Deed`, `Store.Course`: saves, loads, removals and writes of others, one after the other.
* `Store.Deed.Gives`: the content of the file after a deed, by its content before.
* `Store.Course.whole`: after any course the file has the content that its deeds give, and no other file has changed. So
  it stays at every moment of the next deed: the content of before, or the whole of the new one.
-/

namespace LintPreview.Store

open Program (Runs Reaches Stays)
open FileTree (AddsDirectories ChangesOnly)

/-- Something done to the file of a store, with its end. The last one is a write that is not the store's own. -/
inductive Deed where
  | save (reply : Except Failure Snapshot)
  | load (reply : Except Failure (List Rule))
  | clear (reply : Except Failure Unit)
  | write (content : List UInt8)

/-- The content of the file after a deed. A removal that returns can have found that the path leads nowhere. -/
def Deed.Gives (before after : Option (List UInt8)) : Deed → Prop
  | .save (.ok snapshot) => after = snapshot.bytes? ∧ after ≠ none
  | .save (.error _) => after = before
  | .load _ => after = before
  | .clear (.ok _) => after = none ∨ after = before
  | .clear (.error _) => after = before
  | .write content => after = some content

/-- The content of the file after deeds, the last one first. -/
def Gives (before : Option (List UInt8)) : List Deed → Option (List UInt8) → Prop
  | [], after => after = before
  | d :: deeds, after => ∃ between, Gives before deeds between ∧ d.Gives between after

/-- Deeds one after the other, the last one first, and the host after them. Every act of a save can fail, but that the
file that was made for a while is removed again. -/
inductive Course (s : Store) (start : Host) : List Deed → Host → Prop where
  | start : Course s start [] start
  | save {deeds : List Deed} {host host' : Host} {rules : List Rule} {version : Option Text} {events : List DiskEvent}
      {reply : Except Failure Snapshot} (before : Course s start deeds host)
      (runs : Runs Host.TidyAnswers (s.save rules version) host events reply host') : Course s start (.save reply :: deeds) host'
  | load {deeds : List Deed} {host host' : Host} {events : List DiskEvent} {reply : Except Failure (List Rule)}
      (before : Course s start deeds host) (runs : Runs (Host.Answers true) s.load host events reply host') :
      Course s start (.load reply :: deeds) host'
  | clear {deeds : List Deed} {host host' : Host} {events : List DiskEvent} {reply : Except Failure Unit}
      (before : Course s start deeds host) (runs : Runs (Host.Answers true) s.clear host events reply host') :
      Course s start (.clear reply :: deeds) host'
  | write {deeds : List Deed} {host : Host} {content : List UInt8} {files : FileTree} (before : Course s start deeds host)
      (written : host.files.write s.file content = .ok files) : Course s start (.write content :: deeds) { host with files }

variable {s : Store} {start host host' : Host} {deeds : List Deed} {events : List DiskEvent} {t t' : FileTree}

/-! ### Single deeds -/

/-- A write to the path of the store changes what stands there and nothing else. -/
theorem changesOnly_of_write {content : List UInt8} (h : t.write s.file content = .ok t') :
    t'.contentAt? s.file = some content ∧ ChangesOnly (t.placeOf? s.file) t t' := by
  obtain ⟨loc, executable, hloc, hnot, rfl⟩ := FileTree.eq_of_write h
  have hplace := FileTree.placeOf?_of_locate hloc
  have hne := FileTree.ne_nil_of_get? hnot
  refine ⟨FileTree.contentAt?_put hplace hne, ?_⟩
  rw [hplace]
  exact FileTree.changesOnly_put hne t _

/-- A removal leaves the content of the file, or it leaves none. No other file is changed. -/
theorem changesOnly_of_remove {removed : Except PathFault Unit}
    (h : Host.Answers true (.remove s.file) host removed host') :
    (Deed.clear (removed.mapError .path)).Gives (host.files.contentAt? s.file) (host'.files.contentAt? s.file) ∧
      ChangesOnly (host.files.placeOf? s.file) host.files host'.files := by
  rcases h with h | ⟨⟨fault, rfl⟩, rfl⟩
  · cases hfiles : host.files.removeFile s.file with
    | error fault =>
      rw [hfiles] at h
      cases h
      exact ⟨rfl, .refl _ _⟩
    | ok files =>
      rw [hfiles] at h
      cases h
      rcases FileTree.eq_of_removeFile hfiles with rfl | ⟨loc, hloc, hnot, rfl⟩
      · exact ⟨.inr rfl, .refl _ _⟩
      · have hplace := FileTree.placeOf?_of_locate hloc
        have hne := FileTree.ne_nil_of_get? hnot
        refine ⟨.inl (FileTree.contentAt?_erase hplace hne), ?_⟩
        rw [hplace]
        exact FileTree.changesOnly_erase hne _
  · exact ⟨rfl, .refl _ _⟩

/-- At every moment of a removal the file has the content of before, or none. -/
theorem stays_clear (s : Store) (host : Host) : s.clear.Stays (Host.Answers true)
    (fun h => h.files.contentAt? s.file = host.files.contentAt? s.file ∨ h.files.contentAt? s.file = none)
    (fun reply h => (Deed.clear reply).Gives (host.files.contentAt? s.file) (h.files.contentAt? s.file) ∧
      ChangesOnly (host.files.placeOf? s.file) host.files h.files) host := by
  refine ⟨.inl rfl, ?_⟩
  intro removed host' hremove
  obtain ⟨hgives, hothers⟩ := changesOnly_of_remove hremove
  refine ⟨?_, hgives, hothers⟩
  cases removed with
  | error fault => exact .inl hgives
  | ok _ => exact hgives.symm

/-- An act that reads. -/
def Reads : DiskAct → Prop
  | .now => True
  | .read _ => True
  | _ => False

theorem onlyAsks_readText (path : Path) : (Disk.readText path).OnlyAsks Reads := by
  refine Program.OnlyAsks.bind ⟨trivial, fun _ => trivial⟩ fun read => ?_
  split
  · trivial
  · split <;> trivial

theorem onlyAsks_loadSnapshot (s : Store) : s.loadSnapshot.OnlyAsks Reads := by
  refine (onlyAsks_readText s.file).bind fun content => ?_
  split
  · trivial
  · refine Program.OnlyAsks.bind ⟨trivial, fun _ => trivial⟩ fun now => ?_
    split <;> trivial

theorem onlyAsks_load (s : Store) : s.load.OnlyAsks Reads := (onlyAsks_loadSnapshot s).bind fun _ => trivial

/-- Loading changes no file at any moment. -/
theorem stays_load (s : Store) (host : Host) : s.load.Stays (Host.Answers true)
    (fun h => h.files = host.files) (fun _ h => h.files = host.files) host := by
  refine (onlyAsks_load s).stays ?_ rfl
  rintro (_ | path | _ | _ | _ | _ | _) h reply h₁ ⟨⟩ hh answers
  · rw [answers.2]
    exact hh
  · rw [answers.1]
    exact hh

/-- The content of the file after a save. -/
theorem Replaces.gives {rules : List Rule} {version : Option Text} {reply : Except Failure Snapshot}
    (h : s.Replaces rules version t t' reply) :
    (Deed.save reply).Gives (t.contentAt? s.file) (t'.contentAt? s.file) ∧ ChangesOnly (t.placeOf? s.file) t t' := by
  cases h with
  | replaced made bytesEq file others =>
    refine ⟨⟨?_, ?_⟩, others⟩
    · rw [bytesEq, file.contentAt?]
    · rw [file.contentAt?]
      nofun
  | kept adds => exact ⟨adds.contentAt? s.file, adds.changesOnly _⟩

/-! ### Courses -/

/-- After any deeds the file has the content that they give, and no other file has changed. -/
theorem Course.gives (h : s.Course start deeds host) :
    Gives (start.files.contentAt? s.file) deeds (host.files.contentAt? s.file) ∧
      ChangesOnly (start.files.placeOf? s.file) start.files host.files := by
  -- A deed changes nothing but what stands where the path led at the start.
  have hnext : ∀ {t t'}, ChangesOnly (start.files.placeOf? s.file) start.files t →
      ChangesOnly (t.placeOf? s.file) t t' → ChangesOnly (start.files.placeOf? s.file) start.files t' := by
    intro t t' hbefore hdeed
    rw [FileTree.placeOf?_of_working hbefore.working] at hdeed
    exact hbefore.trans hdeed
  induction h with
  | start => exact ⟨rfl, .refl _ _⟩
  | @save deeds host host' rules version events reply before runs ih =>
    obtain ⟨hgives, hothers⟩ := ((stays_save s rules version host).of_runs runs).gives
    exact ⟨⟨_, ih.1, hgives⟩, hnext ih.2 hothers⟩
  | load before runs ih =>
    have hfiles := (stays_load s _).of_runs runs
    refine ⟨⟨_, ih.1, ?_⟩, ?_⟩
    · show FileTree.contentAt? _ _ = _
      rw [hfiles]
    · rw [hfiles]
      exact ih.2
  | clear before runs ih =>
    obtain ⟨hgives, hothers⟩ := (stays_clear s _).of_runs runs
    exact ⟨⟨_, ih.1, hgives⟩, hnext ih.2 hothers⟩
  | write before written ih =>
    obtain ⟨hcontent, hothers⟩ := changesOnly_of_write written
    exact ⟨⟨_, ih.1, hcontent⟩, hnext ih.2 hothers⟩

/-- After any deeds the file has the content that they give, and no other file has changed. The next save can come to an
end. At every moment of it the file has the content of before or the whole of the new one; if the save returns, the file
has the new one, and if it does not, no file is changed and none is left. A load changes no file, and a removal leaves the
content of before or none. -/
theorem Course.whole (h : s.Course start deeds host) (rules : List Rule) (version : Option Text) :
    (Gives (start.files.contentAt? s.file) deeds (host.files.contentAt? s.file) ∧
      ChangesOnly (start.files.placeOf? s.file) start.files host.files) ∧
    (∃ events reply host', Runs Host.TidyAnswers (s.save rules version) host events reply host') ∧
    (∀ events q host', Reaches Host.TidyAnswers (s.save rules version) host events q host' →
      s.Midway rules version host.files host'.files ∧ (s.file.IsApart → ¬ s.IsTemporary host'.files)) ∧
    (∀ events reply host', Runs Host.TidyAnswers (s.save rules version) host events reply host' →
      s.Replaces rules version host.files host'.files reply ∧
      ∀ f, reply = .error f → host'.files.contentAt? s.file = host.files.contentAt? s.file) ∧
    (∀ events q host', Reaches (Host.Answers true) s.load host events q host' → host'.files = host.files) ∧
    (∀ events q host', Reaches (Host.Answers true) s.clear host events q host' →
      host'.files.contentAt? s.file = host.files.contentAt? s.file ∨ host'.files.contentAt? s.file = none) := by
  have hsave := stays_save s rules version host
  refine ⟨h.gives, Program.exists_runs Host.isTotal_tidyAnswers _ host, ?_, ?_, ?_, ?_⟩
  · intro events q host' hreaches
    exact ⟨hsave.of_reaches hreaches, fun hapart => not_isTemporary hapart _⟩
  · intro events reply host' hruns
    have hreplaces := hsave.of_runs hruns
    refine ⟨hreplaces, ?_⟩
    rintro f rfl
    exact hreplaces.gives.1
  · exact fun events q host' hreaches => (stays_load s host).of_reaches hreaches
  · exact fun events q host' hreaches => (stays_clear s host).of_reaches hreaches

/-- After a save of two rules and a load the file of a store below the root is whole at every moment of the next save. -/
theorem Course.whole_twoRules : ∃ deeds host, Loader.ofRoot.store.Course {} deeds host ∧ deeds.length = 2 ∧
    host.files.contentAt? Loader.ofRoot.store.file ≠ none ∧
    ∀ rules version events q host', Reaches Host.TidyAnswers (Loader.ofRoot.store.save rules version) host events q host' →
      Loader.ofRoot.store.Midway rules version host.files host'.files ∧ ¬ Loader.ofRoot.store.IsTemporary host'.files := by
  obtain ⟨events, host, hsave⟩ := exists_runs_save_twoRules (fun _ _ _ _ => Host.tidy_of_answers)
  obtain ⟨events', reply, host', hload⟩ := Program.exists_runs (Host.isTotal_answers true) Loader.ofRoot.store.load host
  have hcourse : Loader.ofRoot.store.Course {} _ host' := .load (.save .start hsave) hload
  refine ⟨_, host', hcourse, rfl, ?_, ?_⟩
  · rw [(stays_load Loader.ofRoot.store host).of_runs hload]
    exact ((stays_save Loader.ofRoot.store twoRules _ {}).of_runs hsave).gives.1.2
  · intro rules version events'' q host'' hreaches
    obtain ⟨hmidway, hapart⟩ := (hcourse.whole rules version).2.2.1 events'' q host'' hreaches
    exact ⟨hmidway, hapart isApart_ofRoot⟩

end LintPreview.Store
