import ControlPlane.Http.Verdict
import ControlPlane.Proofs.Exchange.Headers
import ControlPlane.Proofs.Text.Digits

/-!
# Why a response is no success

A response of success passes. What any other one is told as is a relation between responses and failures, `Http.Response.Refuses`: that
the platform asks to come back later, or the reason that the response tells, which is the first one of several that there may be
(`Http.Response.Tells`). The main statement is `Http.Response.check_eq_error_iff`: the relation is what the check of a response computes.
-/

namespace ControlPlane

/-! ## Members of a value -/

namespace Json

theorem text?_eq_some_iff {v : Json} {t : String} : v.text? = some t ↔ v = .text t := by
  cases v <;> simp [text?]

theorem first?_eq_some_iff {v item : Json} : v.first? = some item ↔ ∃ rest, v = .array (item :: rest) := by
  match v with
  | .array (_ :: _) => simp [first?]
  | .array [] | .null | .bool _ | .number _ | .text _ | .object _ => simp [first?]

/-- The text of a member is that of a value with the name, where that is a text. -/
theorem memberText?_eq_some_iff {name t : String} {v : Json} : v.memberText? name = some t ↔ v.member? name = some (.text t) := by
  rw [memberText?, Option.bind_eq_some_iff]
  constructor
  · rintro ⟨w, hw, ht⟩
    rw [hw, text?_eq_some_iff.mp ht]
  · intro h
    exact ⟨_, h, rfl⟩

/-- Whether a member of a value holds a text, or holds none where there is none. -/
def HoldsText (v : Json) (name : String) (held : Option String) : Prop := ∀ t, held = some t ↔ v.member? name = some (.text t)

theorem holdsText_iff {v : Json} {name : String} {held : Option String} : v.HoldsText name held ↔ held = v.memberText? name := by
  constructor
  · intro h
    refine Option.ext fun t => ?_
    rw [memberText?_eq_some_iff]
    exact h t
  · rintro rfl t
    exact memberText?_eq_some_iff

end Json

namespace Http.Response

/-! ## Reasons -/

/-- Whether a text is one for a value. -/
def Holds (body : String) (v : Json) : Prop := Json.Decoder.run Json.Decoder.any (Text.octets body) = .ok v

/-- The reason that a value explains: its description with its code, or else the detail of its first error with its title. -/
inductive Explains (v : Json) : Reason → Prop
  | described {description : String} (h : v.member? "description" = some (.text description)) {code : Option String}
      (hcode : v.HoldsText "error_code" code) : Explains v (description, code)
  | detailed (hno : ∀ t, v.member? "description" ≠ some (.text t)) {error : Json} {rest : List Json}
      (h : v.member? "errors" = some (.array (error :: rest))) {detail : String} (hdetail : error.member? "detail" = some (.text detail))
      {title : Option String} (htitle : error.HoldsText "title" title) : Explains v (detail, title)

/-- The reason that a response tells: the status, where the body is not there; what the value in the body explains; the status, where the
body is empty; or else the body. -/
inductive Tells (r : Response) : Reason → Prop
  | lost (h : r.body = none) : Tells r ("HTTP " ++ statusText r.status, none)
  | explained {body : String} (h : r.text? = some body) {v : Json} (hv : Holds body v) {told : Reason} (htold : Explains v told) :
      Tells r told
  | empty (h : r.text? = some "") : Tells r ("HTTP " ++ statusText r.status, none)
  | raw {body : String} (h : r.text? = some body) (hne : body ≠ "") (hno : ∀ v told, Holds body v → ¬Explains v told) :
      Tells r (body, none)

/-- What a response is told as that is no success: the time after which to come back, in seconds, where the first header for it writes a
number of 64 bits; or else its reason. -/
inductive Refuses (r : Response) : Failure → Prop
  | later (h : r.status = 429) {seconds : Option UInt64}
      (hseconds : ∀ n, seconds = some n ↔ ∃ t, r.header? "retry-after" = some (Text.octets t) ∧ Decimal.Writes t.toList n.toNat) :
      Refuses r (.rateLimited seconds)
  | refused (h : ¬(200 ≤ r.status ∧ r.status < 300)) (hlater : r.status ≠ 429) {message : String} {code : Option String}
      (htold : r.Tells (message, code)) : Refuses r (.api message (some r.status) code)

theorem described?_eq_some_iff {v : Json} {told : Reason} :
    described? v = some told ↔ v.member? "description" = some (.text told.1) ∧ v.HoldsText "error_code" told.2 := by
  rw [described?, Option.map_eq_some_iff, Json.holdsText_iff]
  constructor
  · rintro ⟨description, hdescription, rfl⟩
    exact ⟨Json.memberText?_eq_some_iff.mp hdescription, rfl⟩
  · rintro ⟨hdescription, hcode⟩
    exact ⟨told.1, Json.memberText?_eq_some_iff.mpr hdescription, by rw [← hcode]⟩

theorem described?_eq_none_iff {v : Json} : described? v = none ↔ ∀ t, v.member? "description" ≠ some (.text t) := by
  rw [described?, Option.map_eq_none_iff, Option.eq_none_iff_forall_ne_some]
  simp only [ne_eq, Json.memberText?_eq_some_iff]

theorem detailed?_eq_some_iff {v : Json} {told : Reason} :
    detailed? v = some told ↔ ∃ error rest, v.member? "errors" = some (.array (error :: rest)) ∧
      error.member? "detail" = some (.text told.1) ∧ error.HoldsText "title" told.2 := by
  simp only [detailed?, Option.bind_eq_bind, Option.bind_eq_some_iff, Option.map_eq_some_iff, Json.first?_eq_some_iff,
    Json.memberText?_eq_some_iff, Json.holdsText_iff]
  constructor
  · rintro ⟨error, ⟨_, herrors, rest, rfl⟩, detail, hdetail, rfl⟩
    exact ⟨error, rest, herrors, hdetail, rfl⟩
  · rintro ⟨error, rest, herrors, hdetail, htitle⟩
    exact ⟨error, ⟨_, herrors, rest, rfl⟩, told.1, hdetail, by rw [← htitle]⟩

/-- The first form in which a value tells a reason is the one that counts. -/
theorem explains_iff {v : Json} {told : Reason} : (described? v <|> detailed? v) = some told ↔ Explains v told := by
  rw [Option.orElse_eq_orElse, Option.orElse_eq_or, Option.or_eq_some_iff, described?_eq_some_iff, described?_eq_none_iff,
    detailed?_eq_some_iff]
  constructor
  · rintro (⟨hdescription, hcode⟩ | ⟨hno, error, rest, herrors, hdetail, htitle⟩)
    · exact .described hdescription hcode
    · exact .detailed hno herrors hdetail htitle
  · rintro (⟨hdescription, hcode⟩ | ⟨hno, herrors, hdetail, htitle⟩)
    · exact Or.inl ⟨hdescription, hcode⟩
    · exact Or.inr ⟨hno, _, _, herrors, hdetail, htitle⟩

/-- A body explains what the value explains for which it is a text. -/
theorem explained?_eq_some_iff {body : String} {told : Reason} :
    explained? body = some told ↔ ∃ v, Holds body v ∧ Explains v told := by
  unfold explained? Holds
  cases Json.Decoder.run Json.Decoder.any (Text.octets body) with
  | error fault => simp
  | ok v => simp only [explains_iff, Except.ok.injEq, exists_eq_left']

/-- Where no value explains anything, the body does not. -/
theorem explained?_eq_none_iff {body : String} : explained? body = none ↔ ∀ v told, Holds body v → ¬Explains v told := by
  rw [Option.eq_none_iff_forall_ne_some]
  simp only [ne_eq, explained?_eq_some_iff, not_exists, not_and]
  exact forall_comm

/-- An empty body explains nothing. -/
theorem explained?_empty : explained? "" = none := by
  have hoctets : Text.octets "" = [] := rfl
  have hread : Json.Reading.ofOctets [] = (.missing ⟨.endInValue, 0⟩, none) := by
    rw [Json.Reading.ofOctets, Json.readValue]
    rfl
  unfold explained?
  rw [hoctets, Json.Decoder.run, hread]
  rfl

/-- The reason that is computed is the one that the response tells. -/
theorem reason_eq_iff {r : Response} {told : Reason} : r.reason = told ↔ r.Tells told := by
  have hlost : r.text? = none ↔ r.body = none := Option.map_eq_none_iff
  have hempty : "".isEmpty = true := rfl
  constructor
  · rintro rfl
    cases hbody : r.text? with
    | none =>
      rw [reason, hbody]
      exact .lost (hlost.mp hbody)
    | some body =>
      cases hexplained : explained? body with
      | some told =>
        obtain ⟨v, hv, htold⟩ := explained?_eq_some_iff.mp hexplained
        simp only [reason, hbody, hexplained, Option.getD_some]
        exact .explained hbody hv htold
      | none =>
        simp only [reason, hbody, hexplained, Option.getD_none, String.isEmpty_iff]
        by_cases hne : body = ""
        · rw [if_pos hne]
          exact .empty (hne ▸ hbody)
        · rw [if_neg hne]
          exact .raw hbody hne (explained?_eq_none_iff.mp hexplained)
  · intro htells
    cases htells with
    | lost h => simp only [reason, hlost.mpr h, bareReason]
    | explained h hv htold => simp only [reason, h, explained?_eq_some_iff.mpr ⟨_, hv, htold⟩, Option.getD_some]
    | empty h => simp only [reason, h, explained?_empty, Option.getD_none, hempty, if_true, bareReason]
    | raw h hne hno => simp only [reason, h, explained?_eq_none_iff.mpr hno, Option.getD_none, String.isEmpty_iff, hne, if_false]

/-! ## Verdicts -/

theorem isSuccess_iff {r : Response} : r.isSuccess = true ↔ 200 ≤ r.status ∧ r.status < 300 := by
  simp [isSuccess]

/-- The time after which to come back is the number that the first header for it writes. -/
theorem retryAfter?_eq_some_iff {r : Response} {n : UInt64} :
    r.retryAfter? = some n ↔ ∃ t, r.header? "retry-after" = some (Text.octets t) ∧ Decimal.Writes t.toList n.toNat := by
  have hprintable : ∀ s : List Char, Decimal.Writes s n.toNat → ∀ c ∈ s, IsPrintable c := by
    rintro s ⟨digits, hs, -, hdigits, -⟩ c hc
    have hdigit : c.isDigit = true → IsPrintable c := by
      intro h
      obtain ⟨hlow, hhigh⟩ := Decimal.digit_lt h
      exact Or.inr ⟨by omega, by omega⟩
    rcases hs with rfl | rfl
    · exact hdigit (hdigits c hc)
    · rcases List.mem_cons.mp hc with rfl | hc
      · exact Or.inr (by decide)
      · exact hdigit (hdigits c hc)
  simp only [retryAfter?, Option.bind_eq_some_iff, headerText?_eq_some_iff, Decimal.word64?_eq_some_iff]
  constructor
  · rintro ⟨t, ⟨hgiven, -⟩, hwritten⟩
    exact ⟨t, hgiven, hwritten⟩
  · rintro ⟨t, hgiven, hwritten⟩
    exact ⟨t, ⟨hgiven, hprintable t.toList hwritten⟩, hwritten⟩

/-- A response passes as it is, just if it is one of success. -/
theorem check_eq_ok_iff {r passed : Response} : r.check = .ok passed ↔ passed = r ∧ 200 ≤ r.status ∧ r.status < 300 := by
  rw [← isSuccess_iff, check]
  constructor
  · intro h
    split at h
    · next hs =>
      cases h
      exact ⟨rfl, hs⟩
    · split at h <;> cases h
  · rintro ⟨rfl, hs⟩
    exact if_pos hs

/-- What a response is told as that does not pass is what it refuses as, and nothing else. -/
theorem check_eq_error_iff {r : Response} {e : Failure} : r.check = .error e ↔ r.Refuses e := by
  constructor
  · intro h
    rw [check] at h
    by_cases hs : r.isSuccess = true
    · rw [if_pos hs] at h
      cases h
    · rw [if_neg hs] at h
      by_cases hlater : r.status = tooManyRequests
      · rw [if_pos hlater] at h
        cases h
        exact .later hlater fun n => retryAfter?_eq_some_iff
      · rw [if_neg hlater] at h
        cases h
        exact .refused (mt isSuccess_iff.mpr hs) hlater (reason_eq_iff.mp rfl)
  · intro hrefuses
    cases hrefuses with
    | @later hlater seconds hseconds =>
      have hs : ¬r.isSuccess = true := by
        rw [isSuccess_iff, hlater]
        decide
      have hread : r.retryAfter? = seconds := Option.ext fun n => retryAfter?_eq_some_iff.trans (hseconds n).symm
      rw [check, if_neg hs, tooManyRequests, if_pos hlater, hread]
    | @refused hs hlater message code htold =>
      rw [check, if_neg (mt isSuccess_iff.mp hs), tooManyRequests, if_neg hlater, reason_eq_iff.mpr htold]

end Http.Response

end ControlPlane
