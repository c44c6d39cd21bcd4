import LintPreview.Proofs.Remote.Download
import LintPreview.Proofs.Remote.Scheme
import LintPreview.Proofs.Run.Parts
import LintPreview.Proofs.Text.Decode
import LintPreview.Proofs.Yaml.Scalar

/-!
# What is made of a final response

* `checkConfiguration_eq_ok_iff`: a text may be a configuration when it loads as a mapping or as nothing.
* `Remote.checkLength_eq_ok_iff`: a declared length of ASCII digits has to keep the limit, any other one does not
  matter.
* `Remote.run_readBody`, `Remote.run_readBody_of_lt`: a body within the limit is read to its end; one that is too long,
  to the first part with which it is.
* `Remote.IsSentTo`, `Remote.Reads`: when something is asked for a URL, and when the body of the response is read.
* `Remote.run_fetchConfig_answering`: what is asked, what is read and what is returned. A URL that is valid without the
  blanks around it need not be one that is asked for (`Remote.not_requested_fetchConfig_trailingBreak`).
-/

namespace LintPreview

/-! ### Configurations -/

namespace Yaml

theorem Loading.kindName_toDocument (s : Loading) (place : ℕ) : (s.toDocument place).kindName = s.kindName place := by
  unfold toDocument Loading.tree Loading.kindName
  rw [if_neg (by simp)]
  cases s.shapeAt place with
  | none => rfl
  | some shape => cases shape <;> rfl

theorem kindOfYaml_eq (cs : List CodePoint) : kindOfYaml cs = (Document.ofYaml cs).map Document.kindName := by
  unfold kindOfYaml Document.ofYaml
  cases loadedText cs with
  | error fault => rfl
  | ok loaded =>
    rcases loaded with - | ⟨s, root⟩
    · rfl
    · exact congrArg Except.ok (s.kindName_toDocument root).symm

end Yaml

/-- A text that loads as a mapping, or as nothing. -/
def IsConfiguration (t : Text) : Prop :=
  ∃ d, Document.ofYaml t.toList = .ok d ∧ (d = .null ∨ d.kindName = (Document.map 0 []).kindName)

theorem Document.kindName_eq_null_iff {d : Document} : d.kindName = Document.null.kindName ↔ d = .null := by
  refine ⟨fun h => ?_, fun h => h ▸ rfl⟩
  unfold Document.kindName at h
  split at h <;> first | rfl | exact absurd h (by decide)

theorem checkConfiguration_eq_ok_iff {t : Text} : checkConfiguration t.toList = .ok () ↔ IsConfiguration t := by
  unfold checkConfiguration IsConfiguration
  rw [Yaml.kindOfYaml_eq]
  cases Document.ofYaml t.toList with
  | error fault =>
    refine iff_of_false ?_ (by rintro ⟨d, hd, -⟩; cases hd)
    cases fault <;> exact nofun
  | ok d =>
    simp only [Except.map, Except.ok.injEq, exists_eq_left', Document.kindName_eq_null_iff]
    split <;> simp_all

namespace Remote

open Json (AreDigits digitsValue)

variable {settings : RemoteSettings} {url : Text}

/-- The text of a body is the one that has these bytes. -/
theorem configurationText_eq_ok_iff {body : List UInt8} {t : Text} :
    configurationText url body = .ok t ↔ Text.encode t = .ok body ∧ IsConfiguration t := by
  unfold configurationText
  cases hbody : Text.decode body with
  | error fault =>
    refine iff_of_false nofun ?_
    rintro ⟨hencode, -⟩
    rw [Text.decode_of_encode hencode] at hbody
    cases hbody
  | ok cs =>
    have hencode := Text.encode_of_decode hbody
    have hcs : ∀ t : Text, Text.encode t = .ok body → t = Text.ofList cs := by
      intro t ht
      rw [Text.decode_of_encode ht] at hbody
      rw [← Except.ok.inj hbody, Text.ofList_toList]
    rw [← Text.toList_ofList cs] at hbody
    by_cases hcheck : checkConfiguration cs = .ok ()
    · have hconfiguration : IsConfiguration (Text.ofList cs) := by
        rwa [← checkConfiguration_eq_ok_iff, Text.toList_ofList]
      dsimp only
      rw [hcheck]
      refine ⟨fun h => ?_, fun ⟨ht, _⟩ => ?_⟩
      · cases h
        exact ⟨hencode, hconfiguration⟩
      · rw [hcs t ht]
        rfl
    · obtain ⟨fault, hfault⟩ : ∃ fault, checkConfiguration cs = .error fault := by
        cases hend : checkConfiguration cs with
        | ok => exact absurd hend hcheck
        | error fault => exact ⟨fault, rfl⟩
      dsimp only
      rw [hfault]
      refine iff_of_false nofun ?_
      rintro ⟨ht, hconfiguration⟩
      rw [hcs t ht, ← checkConfiguration_eq_ok_iff, Text.toList_ofList] at hconfiguration
      exact hcheck hconfiguration

/-! ### Declared lengths -/

/-- A declared length that is a number keeps the limit. -/
def KeepsLimit (maxBytes : ℤ) (declared : Text) : Prop :=
  declared.toList ≠ [] → AreDigits declared.toList → (digitsValue declared.toList : ℤ) ≤ maxBytes

/-- In ASCII no character is a digit but those from zero to nine. -/
theorem isDigit_of_isAscii {c : CodePoint} (h : c.isAscii = true) : Text.isDigit c = c.isDigit := by
  have hall : ∀ n < 0x80, Text.isDigit (.ofNat n) = (CodePoint.ofNat n).isDigit := by decide +kernel
  have hc := hall c.toNat (by simpa [CodePoint.isAscii] using h)
  rwa [CodePoint.ofNat_toNat] at hc

theorem checkLength_eq_ok_iff {declared : Text} (hascii : ∀ c ∈ declared.toList, c.isAscii = true)
    (hlength : declared.toList.length ≤ maxDecimalDigits) :
    checkLength settings url declared = .ok () ↔ KeepsLimit settings.maxBytes declared := by
  have hdigits : declared.toList.all Text.isDigit = true ↔ AreDigits declared.toList := by
    rw [List.all_eq_true]
    refine forall₂_congr fun c hc => ?_
    rw [isDigit_of_isAscii (hascii c hc)]
  unfold checkLength KeepsLimit
  by_cases hnumber : declared.toList ≠ [] ∧ AreDigits declared.toList
  · obtain ⟨hne, hall⟩ := hnumber
    have hread : Literal.readInt 10 declared = .ok (digitsValue declared.toList) := by
      have := Yaml.readInt_digits hall hne hlength
      rwa [Text.ofList_toList] at this
    have hempty : declared.isEmpty = false := by
      exact List.isEmpty_eq_false_iff.mpr hne
    rw [hread, hdigits.mpr hall, hempty]
    simp only [Bool.not_false, Bool.and_self, if_true]
    split
    · rename_i hlt
      exact iff_of_false nofun fun h => absurd (h hne hall) (not_le.mpr hlt)
    · rename_i hle
      exact iff_of_true rfl fun _ _ => not_lt.mp hle
  · rw [if_neg]
    · exact iff_of_true rfl fun hne hall => absurd ⟨hne, hall⟩ hnumber
    · intro h
      rw [Bool.and_eq_true, hdigits] at h
      exact hnumber ⟨List.isEmpty_eq_false_iff.mp (Bool.not_eq_true' _ ▸ h.1), h.2⟩

/-! ### Bodies -/

end Remote

namespace Rehearsal

/-- The rehearsal in the middle of a response: the parts to come, and how many were sent. -/
def sending (r : Rehearsal) (parts : List (List UInt8)) (sent : ℕ) : Rehearsal :=
  { r with body := parts.map .ok, seen.partsSent := sent }

theorem run_ofResult {α : Type} (e : Except Failure α) (r : Rehearsal) :
    run (Job.ofResult e) r = (e.mapError .failed, r) := by
  cases e <;> rfl

theorem run_receive_nil (r : Rehearsal) (sent : ℕ) :
    run (Job.receive []) (r.sending [] sent) = (.ok (.ok none), r.sending [] sent) := rfl

/-- An empty part is passed over. -/
theorem run_receive_empty (r : Rehearsal) (parts : List (List UInt8)) (sent : ℕ) :
    run (Job.receive []) (r.sending ([] :: parts) sent) = run (Job.receive []) (r.sending parts (sent + 1)) := by
  have hsent : sent + ((nextPart [] (parts.map .ok)).2.1 + 1) = sent + 1 + (nextPart [] (parts.map .ok)).2.1 := by
    rw [Nat.add_assoc, Nat.add_comm 1]
  exact congrArg (fun n => ((.ok (nextPart [] (parts.map .ok)).1 : Except Stop _),
    ({ r with body := (nextPart [] (parts.map .ok)).2.2, seen.partsSent := n } : Rehearsal))) hsent

theorem run_receive_cons (r : Rehearsal) (b : UInt8) (bs : List UInt8) (parts : List (List UInt8)) (sent : ℕ) :
    run (Job.receive []) (r.sending ((b :: bs) :: parts) sent) =
      (.ok (.ok (some (b :: bs, []))), r.sending parts (sent + 1)) := rfl

end Rehearsal

namespace Remote

variable {r : Rehearsal} {fuel sent : ℕ} {sofar : List UInt8}

/-- What is done with a part of a body. -/
def heedPart (settings : RemoteSettings) (url : Text) (fuel : ℕ) (sofar : List UInt8) :
    Option (List UInt8 × ContentDecoding) → Job (List UInt8)
  | none => return sofar
  | some (part, decoding) =>
    if settings.maxBytes < (sofar ++ part).length then Job.fail (tooLong settings url)
    else readBody settings url fuel (sofar ++ part) decoding

theorem readBody_succ (settings : RemoteSettings) (url : Text) (fuel : ℕ) (sofar : List UInt8)
    (decoding : ContentDecoding) : readBody settings url (fuel + 1) sofar decoding =
      Job.receive decoding >>= fun reply => networkResult settings url reply >>= heedPart settings url fuel sofar := by
  rw [readBody]
  rfl

theorem run_readBody_nil : Rehearsal.run (readBody settings url (fuel + 1) sofar []) (r.sending [] sent) =
    (.ok sofar, r.sending [] sent) := by
  rw [readBody_succ, Rehearsal.run_bind_of_ok (r.run_receive_nil sent)]
  rfl

theorem run_readBody_empty (parts : List (List UInt8)) :
    Rehearsal.run (readBody settings url (fuel + 1) sofar []) (r.sending ([] :: parts) sent) =
      Rehearsal.run (readBody settings url (fuel + 1) sofar []) (r.sending parts (sent + 1)) := by
  have hreceive := r.run_receive_empty parts sent
  rw [readBody_succ]
  cases hrun : Rehearsal.run (Job.receive []) (r.sending parts (sent + 1)) with
  | mk e r' =>
    rw [hrun] at hreceive
    cases e with
    | ok reply => rw [Rehearsal.run_bind_of_ok hreceive, Rehearsal.run_bind_of_ok hrun]
    | error stop => rw [Rehearsal.run_bind_of_error hreceive, Rehearsal.run_bind_of_error hrun]

theorem run_readBody_cons (b : UInt8) (bs : List UInt8) (parts : List (List UInt8)) :
    Rehearsal.run (readBody settings url (fuel + 1) sofar []) (r.sending ((b :: bs) :: parts) sent) =
      if settings.maxBytes < (sofar ++ b :: bs).length then
        (.error (.failed (tooLong settings url)), r.sending parts (sent + 1))
      else Rehearsal.run (readBody settings url fuel (sofar ++ b :: bs) []) (r.sending parts (sent + 1)) := by
  rw [readBody_succ, Rehearsal.run_bind_of_ok (r.run_receive_cons b bs parts sent)]
  show Rehearsal.run (if settings.maxBytes < (sofar ++ b :: bs).length then Job.fail (tooLong settings url)
    else readBody settings url fuel (sofar ++ b :: bs) []) _ = _
  split <;> rfl

/-- A body within the limit is read to its end. -/
theorem run_readBody {parts : List (List UInt8)} (hfuel : settings.maxBytes.toNat < fuel + sofar.length)
    (hfits : sofar.length + parts.flatten.length ≤ settings.maxBytes.toNat) :
    Rehearsal.run (readBody settings url fuel sofar []) (r.sending parts sent) =
      (.ok (sofar ++ parts.flatten), r.sending [] (sent + parts.length)) := by
  induction parts generalizing fuel sofar sent with
  | nil =>
    obtain ⟨fuel, rfl⟩ : ∃ n, fuel = n + 1 := ⟨fuel - 1, by omega⟩
    rw [run_readBody_nil, List.flatten_nil, List.append_nil]
    rfl
  | cons part parts ih =>
    rw [List.flatten_cons, List.length_append] at hfits
    obtain ⟨fuel, rfl⟩ : ∃ n, fuel = n + 1 := ⟨fuel - 1, by omega⟩
    cases part with
    | nil =>
      rw [run_readBody_empty, ih hfuel (by simpa using hfits), List.length_cons, List.flatten_cons, List.nil_append]
      congr 2
      omega
    | cons b bs =>
      have hlength : (sofar ++ b :: bs).length = sofar.length + (b :: bs).length := List.length_append
      have hpart : 0 < (b :: bs).length := Nat.succ_pos _
      rw [run_readBody_cons, if_neg (by omega), ih (by omega) (by omega), List.length_cons, List.flatten_cons,
        List.append_assoc]
      congr 2
      omega

/-- Reading a body stops with the part that makes it too long. -/
theorem run_readBody_of_lt {parts : List (List UInt8)} {n : ℕ} (hfuel : settings.maxBytes.toNat < fuel + sofar.length)
    (hfits : sofar.length + (parts.take n).flatten.length ≤ settings.maxBytes.toNat)
    (hlong : settings.maxBytes.toNat < sofar.length + (parts.take (n + 1)).flatten.length) :
    Rehearsal.run (readBody settings url fuel sofar []) (r.sending parts sent) =
      (.error (.failed (tooLong settings url)), r.sending (parts.drop (n + 1)) (sent + (n + 1))) := by
  induction parts generalizing fuel sofar sent n with
  | nil => simp at hlong; omega
  | cons part parts ih =>
    obtain ⟨fuel, rfl⟩ : ∃ n, fuel = n + 1 := ⟨fuel - 1, by omega⟩
    rw [List.take_succ_cons, List.flatten_cons, List.length_append] at hlong
    rw [List.drop_succ_cons]
    cases part with
    | nil =>
      rw [run_readBody_empty]
      cases n with
      | zero => simp at hlong; omega
      | succ n =>
        rw [List.take_succ_cons, List.flatten_cons, List.nil_append] at hfits
        rw [ih hfuel hfits (by simpa using hlong)]
        congr 2
        omega
    | cons b bs =>
      have hlength : (sofar ++ b :: bs).length = sofar.length + (b :: bs).length := List.length_append
      have hpart : 0 < (b :: bs).length := Nat.succ_pos _
      rw [run_readBody_cons]
      cases n with
      | zero =>
        rw [if_pos (by simp at hlong hlength ⊢; omega)]
        rfl
      | succ n =>
        rw [List.take_succ_cons, List.flatten_cons, List.length_append] at hfits
        rw [if_neg (by omega), ih (n := n) (by omega) (by omega) (by omega)]
        congr 2
        omega

/-! ### Responses -/

/-- How the transfer of a response ends: the bytes, and how many parts are sent. -/
inductive Transfer (settings : RemoteSettings) (head : ResponseHead) (parts : List (List UInt8)) :
    Except Stop (List UInt8) → ℕ → Prop where
  | refused (stop : Stop) (h : ¬ (isSuccess head.status = true ∧ KeepsLimit settings.maxBytes head.declaredLength)) :
      Transfer settings head parts (.error stop) 0
  | cutShort (stop : Stop) {n : ℕ} (success : isSuccess head.status = true)
      (declared : KeepsLimit settings.maxBytes head.declaredLength)
      (fits : (parts.take n).flatten.length ≤ settings.maxBytes.toNat)
      (long : settings.maxBytes.toNat < (parts.take (n + 1)).flatten.length) :
      Transfer settings head parts (.error stop) (n + 1)
  | whole (success : isSuccess head.status = true) (declared : KeepsLimit settings.maxBytes head.declaredLength)
      (fits : parts.flatten.length ≤ settings.maxBytes.toNat) :
      Transfer settings head parts (.ok parts.flatten) parts.length

theorem length_flatten_take_le (parts : List (List UInt8)) (n : ℕ) :
    (parts.take n).flatten.length ≤ parts.flatten.length :=
  ((List.take_prefix n parts).sublist.flatten).length_le

theorem length_flatten_take_mono (parts : List (List UInt8)) {m n : ℕ} (h : m ≤ n) :
    (parts.take m).flatten.length ≤ (parts.take n).flatten.length := by
  have := length_flatten_take_le (parts.take n) m
  rwa [List.take_take, Nat.min_eq_left h] at this

/-- There is one part with which a list becomes too long. -/
theorem eq_of_length_flatten_take {parts : List (List UInt8)} {limit m n : ℕ}
    (hm : (parts.take m).flatten.length ≤ limit) (hm' : limit < (parts.take (m + 1)).flatten.length)
    (hn : (parts.take n).flatten.length ≤ limit) (hn' : limit < (parts.take (n + 1)).flatten.length) : m = n := by
  rcases lt_trichotomy m n with h | h | h
  · exact absurd (lt_of_lt_of_le hm' (length_flatten_take_mono parts h)) (not_lt.mpr hn)
  · exact h
  · exact absurd (lt_of_lt_of_le hn' (length_flatten_take_mono parts h)) (not_lt.mpr hm)

/-- A list that is too long as a whole is so from some part on. -/
theorem exists_take_of_lt {parts : List (List UInt8)} {limit : ℕ} (h : limit < parts.flatten.length) :
    ∃ n, (parts.take n).flatten.length ≤ limit ∧ limit < (parts.take (n + 1)).flatten.length := by
  have hsome : ∃ n, limit < (parts.take n).flatten.length := ⟨parts.length, by rwa [List.take_length]⟩
  cases hfirst : Nat.find hsome with
  | zero =>
    have := Nat.find_spec hsome
    rw [hfirst] at this
    simp at this
  | succ n =>
    exact ⟨n, not_lt.mp (Nat.find_min hsome (by omega)), hfirst ▸ Nat.find_spec hsome⟩

variable {head : ResponseHead} {parts : List (List UInt8)} {a : Address}

/-- What is asked for is on record, and the response comes part by part. -/
theorem run_send (hnetwork : r.network = [.responds head (parts.map .ok)]) (text : Text) :
    Rehearsal.run (Job.send text) r =
      (.ok (.ok head), ({ r with seen.requested := r.seen.requested ++ [text] }).sending parts r.seen.partsSent) := by
  obtain ⟨host, catalog, tool, network, body, inFlight, seen⟩ := r
  cases hnetwork
  rfl

/-- Nothing is followed behind a final response, and what comes from an address without a scheme is none. -/
theorem run_follow (settings : RemoteSettings) (url : Text) (a : Address) (left : ℕ)
    (hnetwork : r.network = [.responds head (parts.map .ok)]) (hfinal : ResponseHead.target? head = none) :
    Rehearsal.run (follow settings url left a) r =
      (if a.scheme.isEmpty then .error (.failed (.badUrl ("unknown url type: " ++ Text.quoted a.text))) else .ok head,
        ({ r with seen.requested := r.seen.requested ++ [a.text] }).sending parts r.seen.partsSent) := by
  rw [follow_eq, Rehearsal.run_bind_of_ok (run_send hnetwork a.text)]
  show Rehearsal.run (heed settings url left a head) _ = _
  unfold heed
  rw [hfinal]
  split <;> rfl

/-- The transfer of a final response to an address that says where it leads. -/
theorem transfer_of_run (hascii : ∀ c ∈ head.declaredLength.toList, c.isAscii = true)
    (hlength : head.declaredLength.toList.length ≤ maxDecimalDigits) :
    ∃ e sent' left, Rehearsal.run (if !isSuccess head.status then Job.fail (.httpStatus url head.status)
        else do
          Job.ofResult (checkLength settings url head.declaredLength)
          readBody settings url (settings.maxBytes.toNat + 1) [] []) (r.sending parts sent) =
        (e, r.sending left (sent + sent')) ∧ Transfer settings head parts e sent' := by
  by_cases hsuccess : isSuccess head.status = true
  case neg =>
    rw [if_pos (by simpa using hsuccess)]
    exact ⟨_, 0, parts, rfl, .refused _ fun h => hsuccess h.1⟩
  rw [if_neg (by simpa using hsuccess)]
  by_cases hdeclared : KeepsLimit settings.maxBytes head.declaredLength
  case neg =>
    cases hcheck : checkLength settings url head.declaredLength with
    | ok => exact absurd ((checkLength_eq_ok_iff hascii hlength).mp hcheck) hdeclared
    | error f => exact ⟨_, 0, parts, rfl, .refused (.failed f) fun h => hdeclared h.2⟩
  rw [(checkLength_eq_ok_iff hascii hlength).mpr hdeclared]
  show ∃ e sent' left, Rehearsal.run (readBody settings url (settings.maxBytes.toNat + 1) [] []) _ = _ ∧ _
  by_cases hfits : parts.flatten.length ≤ settings.maxBytes.toNat
  · refine ⟨_, _, _, run_readBody (by simp) (by simpa using hfits), ?_⟩
    exact .whole hsuccess hdeclared hfits
  · obtain ⟨n, hle, hlt⟩ := exists_take_of_lt (not_le.mp hfits)
    refine ⟨_, _, _, run_readBody_of_lt (n := n) (by simp) (by simpa using hle) (by simpa using hlt), ?_⟩
    exact .cutShort _ hsuccess hdeclared hle hlt

/-- A URL whose address cannot be sent is not asked for. -/
theorem run_download_unsent (settings : RemoteSettings) (url : Text) (r : Rehearsal)
    (hunsent : ¬ ∃ a, Address.ofText url = .ok a ∧ a.checkHost = .ok ()) :
    ∃ stop, Rehearsal.run (download settings url) r = (.error stop, r) := by
  unfold download
  cases ha : Address.ofText url with
  | error fault => exact ⟨_, rfl⟩
  | ok a =>
    cases hhost : a.checkHost with
    | error fault =>
      refine ⟨.failed fault.toFailure, ?_⟩
      show Rehearsal.run (Job.ofResult (a.checkHost.mapError _) >>= _) r = _
      rw [hhost]
      rfl
    | ok => exact absurd ⟨a, ha, hhost⟩ hunsent

/-- A final response to a URL: one request is sent, and its transfer ends in one of the ways. -/
theorem run_download (settings : RemoteSettings) (ha : Address.ofText url = .ok a) (hhost : a.checkHost = .ok ())
    (hnetwork : r.network = [.responds head (parts.map .ok)]) (hfinal : ResponseHead.target? head = none)
    (hcodings : ContentDecoding.ofHeader head.codings = [])
    (hascii : ∀ c ∈ head.declaredLength.toList, c.isAscii = true)
    (hlength : head.declaredLength.toList.length ≤ maxDecimalDigits) :
    ∃ e sent left, Rehearsal.run (download settings url) r =
        (e, ({ r with seen.requested := r.seen.requested ++ [a.first.text] }).sending left
          (r.seen.partsSent + sent)) ∧
      if a.isAbsolute then Transfer settings head parts e sent else sent = 0 ∧ ∃ stop, e = .error stop := by
  have hfollow := run_follow settings url a.first maxRedirects hnetwork hfinal
  unfold download
  rw [ha]
  show ∃ e sent left, Rehearsal.run (Job.ofResult (a.checkHost.mapError _) >>= _) r = _ ∧ _
  rw [hhost]
  show ∃ e sent left, Rehearsal.run (follow settings url maxRedirects a.first >>= _) r = _ ∧ _
  by_cases habsolute : a.isAbsolute = true
  · have hscheme : a.first.scheme.isEmpty = false := by
      rw [Address.first, if_pos habsolute]
      simp only [Address.isAbsolute, Bool.and_eq_true, Bool.not_eq_true'] at habsolute
      exact habsolute.1
    rw [hscheme, if_neg Bool.false_ne_true] at hfollow
    rw [Rehearsal.run_bind_of_ok hfollow, hcodings]
    simp only [habsolute, if_true]
    exact transfer_of_run hascii hlength
  · have hscheme : a.first.scheme.isEmpty = true := by
      rw [Address.first, if_neg habsolute]
      rfl
    rw [hscheme, if_pos rfl] at hfollow
    rw [Rehearsal.run_bind_of_error hfollow]
    simp only [habsolute]
    exact ⟨_, 0, parts, rfl, rfl, _, rfl⟩

/-! ### Configurations behind a URL -/

/-- A network that answers with one response. -/
def answering (head : ResponseHead) (parts : List (List UInt8)) : Rehearsal where
  network := [.responds head (parts.map .ok)]

/-- The address that is asked for a URL: the one of the raw URL of a valid one, if it can be sent. -/
def IsSentTo (url : Text) (a : Address) : Prop :=
  validateUrl url = .valid ∧ ∃ resolved, rawUrl url = .ok resolved ∧ Address.ofText resolved = .ok a ∧
    a.checkHost = .ok ()

/-- The body of the response to a URL is read: its address says where it leads, the status tells of success, and the
declared length keeps the limit. -/
def Reads (settings : RemoteSettings) (url : Text) (head : ResponseHead) : Prop :=
  (∃ a, IsSentTo url a ∧ a.isAbsolute = true) ∧ isSuccess head.status = true ∧
    KeepsLimit settings.maxBytes head.declaredLength

theorem IsSentTo.unique {b : Address} (ha : IsSentTo url a) (hb : IsSentTo url b) : a = b := by
  obtain ⟨-, resolved, hraw, ha, -⟩ := ha
  obtain ⟨-, resolved', hraw', hb, -⟩ := hb
  rw [hraw] at hraw'
  cases hraw'
  rw [ha] at hb
  exact Except.ok.inj hb

/-- The records of a fetch have keys of their own. -/
theorem clash?_fetchConfig {α : Type} {resolved : Text} (took : ℕ) (e : Except Stop α) :
    (Job.withLatency took (Job.endRecord "remote_config_fetch" (collectEntries
      [("operation", .text "remote_config_fetch"), ("url", .text resolved)]) took e)).clash? = none := by
  cases e with
  | ok a =>
    show (["operation", "url", "latency_ms"] : List Text).find? LogRecord.reservedKeys.contains = none
    decide
  | error stop =>
    cases stop with
    | failed f =>
      show (["operation", "url", "error", "latency_ms"] : List Text).find? LogRecord.reservedKeys.contains = none
      decide
    | cancelled =>
      show (["operation", "url", "latency_ms"] : List Text).find? LogRecord.reservedKeys.contains = none
      decide

/-- Logging leaves what is fetched as it is. -/
theorem exists_run_fetchConfig (settings : RemoteSettings) {resolved : Text} (h : requestUrl url = .ok resolved) (threshold : LogLevel)
    (r : Rehearsal) : ∃ before after, Rehearsal.run (fetchConfig settings threshold url) r =
      ((Rehearsal.run (do
          let body ← download settings resolved
          Job.ofResult (configurationText resolved body)) (r.noting before)).1,
        (Rehearsal.run (do
          let body ← download settings resolved
          Job.ofResult (configurationText resolved body)) (r.noting before)).2.noting after) := by
  unfold fetchConfig
  rw [h]
  exact Rehearsal.exists_run_logged threshold "remote_config_fetch" [("url", .text resolved)] rfl clash?_fetchConfig _ r

/-- Nothing is asked for a URL that is sent nowhere. -/
theorem run_fetchConfig_unsent (settings : RemoteSettings) (threshold : LogLevel) (head : ResponseHead)
    (parts : List (List UInt8)) (hunsent : ¬ ∃ a, IsSentTo url a) :
    ∃ stop r', Rehearsal.run (fetchConfig settings threshold url) (answering head parts) = (.error stop, r') ∧
      r'.seen.requested = [] ∧ r'.seen.partsSent = 0 := by
  cases hresolved : requestUrl url with
  | error f =>
    unfold fetchConfig
    rw [hresolved]
    exact ⟨_, _, rfl, rfl, rfl⟩
  | ok resolved =>
    obtain ⟨hvalid, hraw⟩ := requestUrl_eq_ok_iff.mp hresolved
    obtain ⟨before, after, hrun⟩ := exists_run_fetchConfig settings hresolved threshold (answering head parts)
    obtain ⟨stop, hdownload⟩ := run_download_unsent settings resolved ((answering head parts).noting before)
      fun ⟨a, ha, hhost⟩ => hunsent ⟨a, hvalid, resolved, hraw, ha, hhost⟩
    rw [Rehearsal.run_bind_of_error hdownload] at hrun
    exact ⟨_, _, hrun, rfl, rfl⟩

/-- One request is sent for a URL, and the text of what is transferred is returned, if it may be a configuration. -/
theorem run_fetchConfig_sent (settings : RemoteSettings) (threshold : LogLevel) (parts : List (List UInt8))
    (hsent : IsSentTo url a) (hfinal : ResponseHead.target? head = none)
    (hcodings : ContentDecoding.ofHeader head.codings = [])
    (hascii : ∀ c ∈ head.declaredLength.toList, c.isAscii = true)
    (hlength : head.declaredLength.toList.length ≤ maxDecimalDigits) :
    ∃ e sent end' r', Rehearsal.run (fetchConfig settings threshold url) (answering head parts) = (end', r') ∧
      (∀ t, end' = .ok t ↔ ∃ body, e = .ok body ∧ Text.encode t = .ok body ∧ IsConfiguration t) ∧
      r'.seen.requested = [a.first.text] ∧ r'.seen.partsSent = sent ∧
      if a.isAbsolute then Transfer settings head parts e sent else sent = 0 ∧ ∃ stop, e = .error stop := by
  obtain ⟨hvalid, resolved, hraw, ha, hhost⟩ := hsent
  obtain ⟨before, after, hrun⟩ := exists_run_fetchConfig settings (requestUrl_eq_ok_iff.mpr ⟨hvalid, hraw⟩) threshold
    (answering head parts)
  obtain ⟨e, sent, left, hdownload, hends⟩ := run_download settings ha hhost
    (r := (answering head parts).noting before) rfl hfinal hcodings hascii hlength
  cases e with
  | error stop =>
    rw [Rehearsal.run_bind_of_error hdownload] at hrun
    refine ⟨.error stop, sent, _, _, hrun, fun t => ?_, rfl, Nat.zero_add _, hends⟩
    exact iff_of_false nofun fun ⟨body, hbody, _⟩ => nomatch hbody
  | ok body =>
    rw [Rehearsal.run_bind_of_ok hdownload, Rehearsal.run_ofResult] at hrun
    refine ⟨.ok body, sent, _, _, hrun, fun t => ?_, rfl, Nat.zero_add _, hends⟩
    simp only [Except.ok.injEq, exists_eq_left']
    have hiff : configurationText resolved body = .ok t ↔ Text.encode t = .ok body ∧ IsConfiguration t :=
      configurationText_eq_ok_iff
    rw [← hiff]
    cases configurationText resolved body with
    | error f => exact iff_of_false nofun nofun
    | ok t' => simp [Except.mapError]

/-- Fetching a configuration from a network that gives one final response, of any status, with any declared length in
ASCII that is not too long to be read as a number, and with any parts. Something is asked for a URL only if it is valid
and the address of its raw URL can be sent; then one request is sent, to this address. A text is returned if and only if
the body is read, keeps the limit, and is the text in UTF-8, which loads as a mapping or as nothing. If the body is not
read, no part is sent; if it keeps the limit, all parts are; otherwise they are sent up to the first one with which it
is too long. -/
theorem run_fetchConfig_answering (settings : RemoteSettings) (threshold : LogLevel) (url : Text) (head : ResponseHead)
    (parts : List (List UInt8)) (hfinal : ResponseHead.target? head = none)
    (hcodings : ContentDecoding.ofHeader head.codings = [])
    (hascii : ∀ c ∈ head.declaredLength.toList, c.isAscii = true)
    (hlength : head.declaredLength.toList.length ≤ maxDecimalDigits) :
    let ended := Rehearsal.run (fetchConfig settings threshold url) (answering head parts)
    (∀ a, IsSentTo url a → ended.2.seen.requested = [a.first.text]) ∧
    ((¬ ∃ a, IsSentTo url a) → ended.2.seen.requested = []) ∧
    (∀ t, ended.1 = .ok t ↔ Reads settings url head ∧ parts.flatten.length ≤ settings.maxBytes.toNat ∧
      Text.encode t = .ok parts.flatten ∧ IsConfiguration t) ∧
    (¬ Reads settings url head → ended.2.seen.partsSent = 0) ∧
    (Reads settings url head → parts.flatten.length ≤ settings.maxBytes.toNat →
      ended.2.seen.partsSent = parts.length) ∧
    ∀ n, Reads settings url head → (parts.take n).flatten.length ≤ settings.maxBytes.toNat →
      settings.maxBytes.toNat < (parts.take (n + 1)).flatten.length → ended.2.seen.partsSent = n + 1 := by
  intro ended
  by_cases hsent : ∃ a, IsSentTo url a
  case neg =>
    have hreads : ¬ Reads settings url head := fun ⟨⟨a, ha, _⟩, _⟩ => hsent ⟨a, ha⟩
    obtain ⟨stop, r', hrun, hrequested, hparts⟩ := run_fetchConfig_unsent settings threshold head parts hsent
    have hended : ended = (.error stop, r') := hrun
    rw [hended]
    refine ⟨fun a ha => absurd ⟨a, ha⟩ hsent, fun _ => hrequested,
      fun t => iff_of_false nofun fun h => hreads h.1, fun _ => hparts, fun h => absurd h hreads, fun _ h => absurd h hreads⟩
  obtain ⟨a, ha⟩ := hsent
  obtain ⟨e, sent, end', r', hrun, htext, hrequested, hparts, hends⟩ := run_fetchConfig_sent settings threshold parts ha
    hfinal hcodings hascii hlength
  have hended : ended = (end', r') := hrun
  rw [hended]
  refine ⟨fun b hb => ha.unique hb ▸ hrequested, fun h => absurd ⟨a, ha⟩ h, ?_⟩
  rw [hparts]
  by_cases habsolute : a.isAbsolute = true
  case neg =>
    have hreads : ¬ Reads settings url head := fun ⟨⟨b, hb, hb'⟩, _⟩ => habsolute (ha.unique hb ▸ hb')
    rw [if_neg habsolute] at hends
    obtain ⟨rfl, stop, rfl⟩ := hends
    refine ⟨fun t => iff_of_false (fun h => ?_) fun h => hreads h.1, fun _ => rfl, fun h => absurd h hreads,
      fun _ h => absurd h hreads⟩
    obtain ⟨body, hbody, -⟩ := (htext t).mp h
    cases hbody
  rw [if_pos habsolute] at hends
  cases hends with
  | refused stop hrefused =>
    have hreads : ¬ Reads settings url head := fun h => hrefused h.2
    refine ⟨fun t => iff_of_false (fun h => ?_) fun h => hreads h.1, fun _ => rfl, fun h => absurd h hreads,
      fun _ h => absurd h hreads⟩
    obtain ⟨body, hbody, -⟩ := (htext t).mp h
    cases hbody
  | @cutShort stop n success declared fits long =>
    have hreads : Reads settings url head := ⟨⟨a, ha, habsolute⟩, success, declared⟩
    have hlong : settings.maxBytes.toNat < parts.flatten.length :=
      lt_of_lt_of_le long (length_flatten_take_le parts (n + 1))
    refine ⟨fun t => iff_of_false (fun h => ?_) fun h => absurd hlong (not_lt.mpr h.2.1), fun h => absurd hreads h,
      fun _ h => absurd hlong (not_lt.mpr h), fun m _ hle hlt => ?_⟩
    · obtain ⟨body, hbody, -⟩ := (htext t).mp h
      cases hbody
    · exact congrArg (· + 1) (eq_of_length_flatten_take fits long hle hlt)
  | whole success declared fits =>
    have hreads : Reads settings url head := ⟨⟨a, ha, habsolute⟩, success, declared⟩
    refine ⟨fun t => ?_, fun h => absurd hreads h, fun _ _ => rfl, fun n _ _ hlt => ?_⟩
    · rw [htext t]
      simp only [Except.ok.injEq, exists_eq_left']
      exact ⟨fun h => ⟨hreads, fits, h⟩, fun h => h.2.2⟩
    · exact absurd (lt_of_lt_of_le hlt (length_flatten_take_le parts (n + 1))) (not_lt.mpr fits)

/-- A mapping that comes in three parts, one of them empty, with its length. -/
theorem run_fetchConfig_answering_threeParts :
    (ResponseHead.target? { status := 200, declaredLength := "5" } = none ∧ ContentDecoding.ofHeader "" = [] ∧
      (∀ c ∈ Text.toList "5", c.isAscii = true) ∧ (Text.toList "5").length ≤ maxDecimalDigits) ∧
    (Rehearsal.run (fetchConfig {} .warning "https://example.com/c.yml")
      (answering { status := 200, declaredLength := "5" } [[97, 58], [], [32, 49, 10]])).1 = .ok "a: 1\n" := by
  have hfinal : ResponseHead.target? { status := 200, declaredLength := "5" } = none := by decide
  have hcodings : ContentDecoding.ofHeader "" = [] := by decide
  have hascii : ∀ c ∈ Text.toList "5", c.isAscii = true := by decide
  have hlength : (Text.toList "5").length ≤ maxDecimalDigits := by decide
  refine ⟨⟨hfinal, hcodings, hascii, hlength⟩, ?_⟩
  obtain ⟨-, -, htext, -⟩ := run_fetchConfig_answering {} .warning "https://example.com/c.yml"
    { status := 200, declaredLength := "5" } [[97, 58], [], [32, 49, 10]] hfinal hcodings hascii hlength
  refine (htext "a: 1\n").mpr ⟨⟨⟨
    { scheme := Text.toList "https", host := Text.toList "example.com", path := Text.toList "/c.yml" },
    ⟨by decide +kernel, "https://example.com/c.yml", by decide +kernel, by decide +kernel, by decide +kernel⟩,
    by decide⟩, by decide, fun _ _ => by decide⟩, by decide, by decide, ?_⟩
  exact checkConfiguration_eq_ok_iff.mp (by decide +kernel)

/-- Not every URL that is valid is asked for: it is without the blanks around it that it is looked at, but with them
that it is asked for. -/
theorem not_requested_fetchConfig_trailingBreak :
    ¬ ∀ (settings : RemoteSettings) (threshold : LogLevel) (url : Text) (head : ResponseHead)
      (parts : List (List UInt8)), ResponseHead.target? head = none → ContentDecoding.ofHeader head.codings = [] →
      validateUrl url = .valid →
      (Rehearsal.run (fetchConfig settings threshold url) (answering head parts)).2.seen.requested.length = 1 := by
  intro hall
  have hone := hall {} .warning "https://example.com/c.yml\n" { status := 200 } [[97, 58, 32, 49, 10]] (by decide)
    (by decide) (by decide +kernel)
  revert hone
  decide +kernel

end Remote

end LintPreview
