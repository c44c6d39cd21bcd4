import LintPreview.Proofs.Remote.Download
import LintPreview.Proofs.Remote.Redirect
import LintPreview.Proofs.Run.Partway
import LintPreview.Proofs.Run.Surroundings
import LintPreview.Rehearsal

/-!
# The requests for a configuration

* `recorded`: a world that records each request with what came back. Every reply is possible.
* `Follows`: how requests follow each other: each one asks for what the response before it redirects to.
* `IsTrail`: the requests for a URL follow each other from its first address on (`stays_fetchConfig`).
* `requests_fetchConfig`: their schemes. They are all `https` as long as no location names another scheme. One that does
  is followed (`not_requests_fetchConfig_secure`).
-/

namespace LintPreview

open Program (World Reaches)

/-! ### Requests on record -/

/-- A request, with what came back. -/
abbrev Exchange := Text × Except TransportStop ResponseHead

/-- A world that records requests with what came back. Every reply is possible, to every act. -/
def recorded : World ServiceAct ServiceAct.Reply (List Exchange)
  | .send url, xs, reply, xs' => xs' = xs ++ [(url, reply)]
  | _, xs, _, xs' => xs' = xs

/-- Everything gets some reply. -/
theorem isTotal_recorded : recorded.IsTotal := by
  intro act xs
  obtain ⟨reply, -⟩ := Workplace.isTotal_answers (Host.isTotal_answers false) act {}
  cases act <;> exact ⟨reply, _, rfl⟩

/-- An act that sends nothing. -/
def ServiceAct.IsQuiet (act : ServiceAct) : Prop := ∀ url, act ≠ .send url

/-- A job that sends nothing adds no request. -/
theorem Job.OnlyAsks.stays_recorded {α : Type} {job : Job α} (h : job.OnlyAsks ServiceAct.IsQuiet)
    (xs : List Exchange) : job.run.Stays recorded (fun xs' => xs' = xs) (fun _ xs' => xs' = xs) xs := by
  refine h.program.stays ?_ rfl
  intro act s reply s₁ hquiet hs hanswers
  cases act with
  | send url => exact absurd rfl (hquiet url)
  | _ => exact Eq.trans hanswers hs

/-- A job that sends nothing, and another one behind it. -/
theorem Job.OnlyAsks.stays_bind_recorded {α β : Type} {job : Job α} {f : α → Job β} {inv : List Exchange → Prop}
    {post : Except Stop β → List Exchange → Prop} {xs : List Exchange} (h : job.OnlyAsks ServiceAct.IsQuiet)
    (hinv : inv xs) (herror : ∀ stop, post (.error stop) xs) (hok : ∀ a, (f a).run.Stays recorded inv post xs) :
    (job >>= f).run.Stays recorded inv post xs := by
  refine Job.stays_bind (fun _ xs' => xs' = xs) ((h.stays_recorded xs).mono ?_ fun _ _ _ heq => heq) ?_ ?_
  · rintro _ rfl
    exact hinv
  · rintro a _ - rfl
    exact hok a
  · rintro stop _ - rfl
    exact herror stop

/-- Logging an operation adds no request. -/
theorem Job.stays_logged {α : Type} {job : Job α} {inv : List Exchange → Prop}
    {post : Except Stop α → List Exchange → Prop} {xs : List Exchange} (h : job.run.Stays recorded inv post xs)
    (hinv : inv xs) (threshold : LogLevel) (operation : Text) (context : List (Text × Json)) :
    (job.logged threshold operation context).run.Stays recorded inv (fun e xs' => ∀ a, e = .ok a → post e xs') xs := by
  have hclock : Job.clock.OnlyAsks ServiceAct.IsQuiet := Job.onlyAsks_ask fun _ => nofun
  have hemit : ∀ record, (Job.emit threshold.rank record).OnlyAsks ServiceAct.IsQuiet :=
    Job.onlyAsks_emit (fun _ _ => nofun) threshold.rank
  unfold Job.logged Job.loggedFrom
  refine hclock.stays_bind_recorded hinv (fun _ => nofun) fun start => ?_
  refine (hemit _).stays_bind_recorded hinv (fun _ => nofun) fun _ => ?_
  refine Job.stays_bind _ (Job.stays_outcome h) ?_ fun _ _ _ _ => nofun
  rintro e xs₁ hinv₁ ⟨e', he, hpost⟩
  cases he
  refine hclock.stays_bind_recorded hinv₁ (fun _ => nofun) fun stop => ?_
  refine (hemit _).stays_bind_recorded hinv₁ (fun _ => nofun) fun _ => ?_
  exact ⟨hinv₁, fun _ _ => hpost⟩

namespace Remote

/-! ### Redirections -/

/-- How requests follow each other from an address on: each one asks for what the response before it redirects to. -/
inductive Follows : Address → List Exchange → Prop where
  | nil (a : Address) : Follows a []
  | last (a : Address) (reply : Except TransportStop ResponseHead) : Follows a [(a.text, reply)]
  | cons {a b : Address} {head : ResponseHead} {location : Text} {xs : List Exchange} (scheme : a.scheme ≠ [])
      (redirects : ResponseHead.target? head = some location) (target : a.redirect location = .ok b)
      (goesOn : Follows b xs) : Follows a ((a.text, .ok head) :: xs)

/-- Heeding a response, if following is right from where it leads to. -/
theorem stays_heed {settings : RemoteSettings} {url : Text} {left : Nat} (a : Address) (head : ResponseHead)
    (xs : List Exchange)
    (hnext : ∀ left' b ys, left = left' + 1 → (follow settings url left' b).run.Stays recorded
      (fun xs' => ∃ new, xs' = ys ++ new ∧ Follows b new) (fun _ _ => True) ys) :
    (heed settings url left a head).run.Stays recorded (fun xs' => ∃ new, xs' = xs ++ new ∧ Follows a new)
      (fun e _ => (∃ head, e = .ok head) → a.scheme ≠ []) (xs ++ [(a.text, .ok head)]) := by
  have hlast : ∃ new, xs ++ [(a.text, .ok head)] = xs ++ new ∧ Follows a new := ⟨_, rfl, .last a _⟩
  unfold heed
  by_cases hscheme : a.scheme = []
  · rw [if_pos (by simpa using hscheme)]
    exact ⟨hlast, nofun⟩
  · rw [if_neg (by simpa using hscheme)]
    cases hlocation : ResponseHead.target? head with
    | none => exact ⟨hlast, fun _ => hscheme⟩
    | some location =>
      dsimp only
      cases htarget : a.redirect location with
      | error fault => exact ⟨hlast, nofun⟩
      | ok target =>
        refine ⟨hlast, ?_⟩
        rintro reply xs₁ rfl
        show Program.Stays _ _ _ (networkResult settings url reply >>= _ : Job ResponseHead).run _
        rcases networkResult_eq settings url reply with ⟨_, rfl, hreply⟩ | ⟨stop, hreply⟩
        · rw [hreply]
          cases left with
          | zero => exact ⟨hlast, nofun⟩
          | succ left =>
            refine (hnext left target _ rfl).mono ?_ fun _ _ _ _ _ => hscheme
            rintro xs' ⟨new, rfl, hfollows⟩
            exact ⟨_, by rw [List.append_assoc]; rfl, .cons hscheme hlocation htarget hfollows⟩
        · rw [hreply]
          exact ⟨hlast, nofun⟩

/-- The requests behind an address. Only what comes from an address with a scheme is a response. -/
theorem stays_follow (settings : RemoteSettings) (url : Text) (left : Nat) (a : Address) (xs : List Exchange) :
    (follow settings url left a).run.Stays recorded (fun xs' => ∃ new, xs' = xs ++ new ∧ Follows a new)
      (fun e _ => (∃ head, e = .ok head) → a.scheme ≠ []) xs := by
  induction left using Nat.strong_induction_on generalizing a xs with
  | _ left ih =>
    rw [follow_eq]
    refine ⟨⟨[], (List.append_nil xs).symm, .nil a⟩, ?_⟩
    rintro reply xs₁ rfl
    show Program.Stays _ _ _ (networkResult settings url reply >>= heed settings url left a : Job ResponseHead).run _
    rcases networkResult_eq settings url reply with ⟨head, rfl, hreply⟩ | ⟨stop, hreply⟩
    · rw [hreply]
      refine stays_heed a head xs ?_
      rintro left' b ys rfl
      exact (ih left' (Nat.lt_succ_self left') b ys).mono (fun _ h => h) fun _ _ _ _ => trivial
    · rw [hreply]
      exact ⟨⟨_, rfl, .last a reply⟩, nofun⟩

/-! ### The requests for a URL -/

/-- The requests for a text follow each other from its first address on. -/
def IsTrail (url : Text) (a : Address) (xs : List Exchange) : Prop := Address.ofText url = .ok a ∧ Follows a.first xs

/-- Asking for the bytes behind a URL. -/
theorem stays_download (settings : RemoteSettings) (url : Text) :
    (download settings url).run.Stays recorded (fun xs => xs = [] ∨ ∃ a, IsTrail url a xs)
      (fun e xs => (∃ body, e = .ok body) → ∃ a, IsTrail url a xs ∧ a.first.scheme ≠ []) [] := by
  unfold download
  refine Job.stays_ofResult_bind (fun a ha => ?_) fun _ _ => ⟨.inl rfl, nofun⟩
  refine Job.stays_ofResult_bind (fun _ _ => ?_) fun _ _ => ⟨.inl rfl, nofun⟩
  have ha := eq_ok_of_mapError ha
  have hfollow := stays_follow settings url maxRedirects a.first []
  refine Job.stays_bind (fun e xs => IsTrail url a xs ∧ ((∃ head, e = .ok head) → a.first.scheme ≠ []))
    (hfollow.mono ?_ ?_) ?_ ?_
  · rintro xs ⟨new, rfl, hnew⟩
    exact .inr ⟨a, ha, hnew⟩
  · rintro e xs ⟨new, rfl, hnew⟩ hhead
    exact ⟨⟨ha, hnew⟩, hhead⟩
  · rintro head xs - ⟨htrail, hscheme⟩
    -- Nothing is sent any more.
    have hquiet : Job.OnlyAsks ServiceAct.IsQuiet (if !isSuccess head.status then Job.fail (.httpStatus url head.status)
        else do
          Job.ofResult (checkLength settings url head.declaredLength)
          readBody settings url (settings.maxBytes.toNat + 1) [] (ContentDecoding.ofHeader head.codings)) := by
      split
      · exact Job.onlyAsks_fail _
      · exact (Job.onlyAsks_ofResult _).bind fun _ => onlyAsks_readBody (fun _ _ => nofun) ..
    refine (hquiet.stays_recorded xs).mono ?_ ?_
    · rintro xs' rfl
      exact .inr ⟨a, htrail⟩
    · rintro e xs' rfl - -
      exact ⟨a, htrail, hscheme ⟨head, rfl⟩⟩
  · rintro stop xs - -
    exact nofun

/-- Asking for the configuration behind a URL. -/
theorem stays_fetchConfig (settings : RemoteSettings) (threshold : LogLevel) (url : Text) :
    (fetchConfig settings threshold url).run.Stays recorded
      (fun xs => xs = [] ∨ ∃ resolved a, requestUrl url = .ok resolved ∧ IsTrail resolved a xs)
      (fun e xs => (∃ text, e = .ok text) →
        ∃ resolved a, requestUrl url = .ok resolved ∧ IsTrail resolved a xs ∧ a.first.scheme ≠ []) [] := by
  unfold fetchConfig
  refine Job.stays_ofResult_bind (fun resolved hresolved => ?_) fun _ _ => ⟨.inl rfl, nofun⟩
  have hbody : (download settings resolved >>= fun body => Job.ofResult (configurationText resolved body)).run.Stays
      recorded (fun xs => xs = [] ∨ ∃ a, IsTrail resolved a xs)
      (fun e xs => (∃ text, e = .ok text) → ∃ a, IsTrail resolved a xs ∧ a.first.scheme ≠ []) [] := by
    refine Job.stays_bind _ (stays_download settings resolved) ?_ fun _ _ _ _ => nofun
    intro body xs hinv htrail
    have hresult : (Job.ofResult (configurationText resolved body)).OnlyAsks ServiceAct.IsQuiet := Job.onlyAsks_ofResult _
    refine (hresult.stays_recorded xs).mono ?_ ?_
    · rintro _ rfl
      exact hinv
    · rintro e _ rfl - -
      exact htrail ⟨body, rfl⟩
  refine (Job.stays_logged hbody (.inl rfl) threshold _ _).mono ?_ ?_
  · rintro xs (rfl | ⟨a, htrail⟩)
    · exact .inl rfl
    · exact .inr ⟨resolved, a, hresolved, htrail⟩
  · rintro e xs - hpost ⟨text, rfl⟩
    obtain ⟨a, htrail, hscheme⟩ := hpost text rfl ⟨text, rfl⟩
    exact ⟨resolved, a, hresolved, htrail, hscheme⟩

/-! ### The schemes of the requests -/

/-- Nothing in front of the address of a request from nowhere is a scheme. -/
theorem Address.schemeOf_fromNowhere (a : Address) : schemeOf a.fromNowhere.text = [] := by
  have hchars : a.fromNowhere.chars = .char '/' :: (a.path.dropWhile (· == CodePoint.char '/') ++
      (a.query.map (CodePoint.char '?' :: ·)).getD []) := by
    simp [Address.chars, Address.fromNowhere, Address.authority, Address.bracketedHost]
  show (Remote.takeScheme a.fromNowhere.chars).1 = []
  rw [hchars]
  exact takeScheme_of_head rfl

/-- The first request for a URL names `https`, or nothing. -/
theorem schemeOf_first {url resolved : Text} {a : Address} (hresolved : requestUrl url = .ok resolved)
    (ha : Address.ofText resolved = .ok a) :
    (a.first.scheme = secureScheme ∧ schemeOf a.first.text = secureScheme) ∨
      (a.first.scheme = [] ∧ schemeOf a.first.text = []) := by
  unfold Address.first
  split
  · rename_i habsolute
    have hne : a.scheme ≠ [] := by
      simp only [Address.isAbsolute, Bool.and_eq_true, Bool.not_eq_true', List.isEmpty_eq_false_iff] at habsolute
      exact habsolute.1
    have hscheme : a.scheme = secureScheme := (scheme_of_requestUrl hresolved ha).resolve_right hne
    exact .inl ⟨hscheme, by rw [Address.schemeOf_text (Address.hasScheme_of_ofChars ha hne), hscheme]⟩
  · exact .inr ⟨rfl, a.schemeOf_fromNowhere⟩

theorem Follows.eq_nil_or_cons {a : Address} {xs : List Exchange} (h : Follows a xs) :
    xs = [] ∨ ∃ reply rest, xs = (a.text, reply) :: rest := by
  cases h with
  | nil => exact .inl rfl
  | last a reply => exact .inr ⟨reply, [], rfl⟩
  | cons => exact .inr ⟨_, _, rfl⟩

/-- Without a scheme nothing follows. -/
theorem Follows.eq_of_scheme {a : Address} {xs : List Exchange} (h : Follows a xs) (hscheme : a.scheme = []) :
    ∀ x ∈ xs, xs = [x] ∧ x.1 = a.text := by
  cases h with
  | nil => exact nofun
  | last a reply =>
    intro x hx
    rw [List.mem_singleton.mp hx]
    exact ⟨rfl, rfl⟩
  | cons hne => exact absurd hscheme hne

/-- The scheme behind a secure request is that of the location that is followed, if it names one. -/
theorem Follows.schemeOf_next {a : Address} {xs : List Exchange} (h : Follows a xs)
    (hhas : a.scheme ≠ [] → a.HasScheme) {i : Nat} {x y : Exchange} (hx : xs[i]? = some x) (hy : xs[i + 1]? = some y)
    (hsecure : schemeOf x.1 = secureScheme) :
    ∃ head location, x.2 = .ok head ∧ ResponseHead.target? head = some location ∧
      schemeOf y.1 = if locationScheme location = [] then secureScheme else locationScheme location := by
  induction h generalizing i with
  | nil => cases hx
  | last a reply => simp at hy
  | @cons a b head location xs hne hlocation htarget hfollows ih =>
    cases i with
    | succ i => exact ih (Address.hasScheme_of_redirect htarget) hx hy
    | zero =>
      cases hx
      have hscheme : a.scheme = secureScheme := by rw [← Address.schemeOf_text (hhas hne), hsecure]
      have hb := Address.scheme_of_redirect hscheme htarget
      have hbne : b.scheme ≠ [] := by
        rw [hb]
        split
        · exact isScheme_secureScheme.ne_nil
        · assumption
      refine ⟨head, location, rfl, hlocation, ?_⟩
      rw [← hb, ← Address.schemeOf_text (Address.hasScheme_of_redirect htarget hbne)]
      rcases hfollows.eq_nil_or_cons with rfl | ⟨reply, rest, rfl⟩
      · cases hy
      · cases hy
        rfl

/-- As long as no location names another scheme, all requests are secure if the first one is. -/
theorem Follows.schemeOf_eq_of_locations {a : Address} {xs : List Exchange} (h : Follows a xs)
    (hhas : a.scheme ≠ [] → a.HasScheme) (hhead : ∀ x ∈ xs.head?, schemeOf x.1 = secureScheme)
    (hlocations : ∀ x ∈ xs, ∀ head location, x.2 = .ok head → ResponseHead.target? head = some location →
      locationScheme location = [] ∨ locationScheme location = secureScheme) :
    ∀ x ∈ xs, schemeOf x.1 = secureScheme := by
  -- One request after the other.
  have hall : ∀ (i : Nat) (x : Exchange), xs[i]? = some x → schemeOf x.1 = secureScheme := by
    intro i
    induction i with
    | zero =>
      intro x hx
      exact hhead x (by rw [List.head?_eq_getElem?, hx]; rfl)
    | succ i ih =>
      intro y hy
      have hlt : i < xs.length := by
        have := (List.getElem?_eq_some_iff.mp hy).1
        omega
      have hx : xs[i]? = some xs[i] := List.getElem?_eq_getElem hlt
      obtain ⟨head, location, hreply, hlocation, hnext⟩ := h.schemeOf_next hhas hx hy (ih _ hx)
      rw [hnext]
      rcases hlocations _ (List.getElem_mem hlt) head location hreply hlocation with hnone | hsecure
      · rw [if_pos hnone]
      · rw [hsecure]
        decide
  intro x hx
  obtain ⟨i, hi⟩ := List.getElem?_of_mem hx
  exact hall i x hi

/-- The requests for a configuration, whatever comes back. It always comes to an end. At every moment the first request
names `https`; or it names no scheme, then it is the only one and no text is returned for it. Each later one names
`https` after one that does, unless the location that is followed names another scheme, which is then asked for. So as
long as none does, all requests name `https`, and a text comes over nothing else. -/
theorem requests_fetchConfig (settings : RemoteSettings) (threshold : LogLevel) (url : Text) :
    (∃ events e xs, Job.Runs recorded (fetchConfig settings threshold url) [] events e xs) ∧
    ∀ events q xs, Reaches recorded (fetchConfig settings threshold url).run [] events q xs →
      (∀ x ∈ xs.head?, schemeOf x.1 = secureScheme ∨
        schemeOf x.1 = [] ∧ xs = [x] ∧ ∀ text, q ≠ .done (.ok text)) ∧
      (∀ i x y, xs[i]? = some x → xs[i + 1]? = some y → schemeOf x.1 = secureScheme →
        ∃ head location, x.2 = .ok head ∧ ResponseHead.target? head = some location ∧
          schemeOf y.1 = if locationScheme location = [] then secureScheme else locationScheme location) ∧
      ((∀ x ∈ xs, ∀ head location, x.2 = .ok head → ResponseHead.target? head = some location →
          locationScheme location = [] ∨ locationScheme location = secureScheme) →
        (∀ text, q = .done (.ok text) → ∀ x ∈ xs, schemeOf x.1 = secureScheme) ∧
        ∀ x ∈ xs, schemeOf x.1 = secureScheme ∨ xs = [x] ∧ schemeOf x.1 = []) := by
  refine ⟨Program.exists_runs isTotal_recorded _ _, ?_⟩
  intro events q xs hreaches
  have hstays := stays_fetchConfig settings threshold url
  rcases hstays.of_reaches hreaches with rfl | ⟨resolved, a, hresolved, ha, hfollows⟩
  · exact ⟨nofun, nofun, fun _ => ⟨fun _ _ => nofun, nofun⟩⟩
  have hreturned : ∀ text, q = .done (.ok text) → a.first.scheme ≠ [] := by
    rintro text rfl
    obtain ⟨resolved', a', hresolved', ⟨ha', -⟩, hne⟩ := hstays.of_runs hreaches.runs ⟨text, rfl⟩
    rw [hresolved] at hresolved'
    cases hresolved'
    rw [ha] at ha'
    cases ha'
    exact hne
  rcases schemeOf_first hresolved ha with ⟨hscheme, hfirst⟩ | ⟨hscheme, hfirst⟩
  · have hhas : a.first.HasScheme := ⟨hscheme ▸ isScheme_secureScheme, by rw [hscheme]; decide⟩
    have hhead : ∀ x : Exchange, x ∈ xs.head? → schemeOf x.1 = secureScheme := by
      intro x hx
      rcases hfollows.eq_nil_or_cons with rfl | ⟨reply, rest, rfl⟩
      · cases hx
      · cases hx
        exact hfirst
    refine ⟨fun x hx => .inl (hhead x hx), fun i x y => hfollows.schemeOf_next fun _ => hhas, fun hlocations => ?_⟩
    have hmem := hfollows.schemeOf_eq_of_locations (fun _ => hhas) hhead hlocations
    exact ⟨fun _ _ => hmem, fun x hx => .inl (hmem x hx)⟩
  · -- The only request names no scheme.
    have honly := hfollows.eq_of_scheme hscheme
    have hnone : ∀ text, q ≠ .done (.ok text) := fun text hq => hreturned text hq hscheme
    refine ⟨fun x hx => ?_, ?_, fun _ => ⟨fun text hq => absurd hq (hnone text), fun x hx => ?_⟩⟩
    · obtain ⟨hxs, hx⟩ := honly x (List.mem_of_mem_head? hx)
      exact .inr ⟨hx ▸ hfirst, hxs, hnone⟩
    · intro i x y hx hy
      obtain ⟨hxs, -⟩ := honly x (List.mem_of_getElem? hx)
      rw [hxs] at hy
      simp at hy
    · obtain ⟨hxs, hx⟩ := honly x hx
      exact .inr ⟨hxs, hx ▸ hfirst⟩

/-- A network that redirects a secure request to an insecure one, and answers that with a text. -/
def insecureRedirect : Rehearsal where
  network := [
    .responds { status := 302, location := some "http://evil.example/c.yml" } [],
    .responds { status := 200 } [.ok [97, 58, 32, 49, 10]]]

/-- What is asked of such a network, and what comes back. -/
theorem run_fetchConfig_insecureRedirect :
    ((Rehearsal.run (fetchConfig {} .warning "https://example.com/c.yml") insecureRedirect).1 matches .ok _) = true ∧
    (Rehearsal.run (fetchConfig {} .warning "https://example.com/c.yml") insecureRedirect).2.seen.requested =
      (["https://example.com/c.yml", "http://evil.example/c.yml"] : List Text) := by
  decide +kernel

/-- Not all requests for a configuration name `https`, not even those for a text that is returned. -/
theorem not_requests_fetchConfig_secure :
    ¬ ∀ (settings : RemoteSettings) (threshold : LogLevel) (url : Text) (r : Rehearsal),
      ((Rehearsal.run (fetchConfig settings threshold url) r).1 matches .ok _) = true →
      ∀ request ∈ (Rehearsal.run (fetchConfig settings threshold url) r).2.seen.requested,
        schemeOf request = secureScheme := by
  intro hall
  obtain ⟨hok, hrequested⟩ := run_fetchConfig_insecureRedirect
  have hsecure := hall {} .warning "https://example.com/c.yml" insecureRedirect hok
    (Text.ofString "http://evil.example/c.yml") (by rw [hrequested]; decide)
  revert hsecure
  decide

end Remote

end LintPreview
