import ControlPlane.Proofs.Url.Hosts
import ControlPlane.Proofs.Url.Joined
import Mathlib.Data.List.TakeWhile

/-!
# Addresses are read as they are written

An address of a special scheme that was read has a host, and no character in its parts that begins another part
(`isWritten_of_ofString`). Such an address is read back from its text, with its query (`ofString_text`), where its host is read as it is
written.
-/

namespace ControlPlane.Url

/-! ## Characters that stay -/

/-- A character that stays in a path is no blank, and begins no query and no fragment. -/
theorem stays_inPath {c : Char} (h : Stays inPath c) : isOuterBlank c = false ∧ isBreak c = false ∧ c ≠ '?' ∧ c ≠ '#' :=
  h.forall (P := fun c => isOuterBlank c = false ∧ isBreak c = false ∧ c ≠ '?' ∧ c ≠ '#') (by decide +kernel)

/-- A character that stays in a query is no blank, and begins no fragment. -/
theorem stays_inSpecialQuery {c : Char} (h : Stays inSpecialQuery c) : isOuterBlank c = false ∧ isBreak c = false ∧ c ≠ '#' :=
  h.forall (P := fun c => isOuterBlank c = false ∧ isBreak c = false ∧ c ≠ '#') (by decide +kernel)

/-- Whether a character can stand between the slashes and the path of an address: it is no blank, and begins no path, query or
fragment. -/
structure IsAuthorityChar (c : Char) : Prop where
  unblank : isOuterBlank c = false
  unbroken : isBreak c = false
  slash : c ≠ '/'
  backslash : c ≠ '\\'
  question : c ≠ '?'
  hash : c ≠ '#'

instance : DecidablePred IsAuthorityChar := fun c =>
  decidable_of_iff (isOuterBlank c = false ∧ isBreak c = false ∧ c ≠ '/' ∧ c ≠ '\\' ∧ c ≠ '?' ∧ c ≠ '#')
    ⟨fun ⟨h1, h2, h3, h4, h5, h6⟩ => ⟨h1, h2, h3, h4, h5, h6⟩,
      fun ⟨h1, h2, h3, h4, h5, h6⟩ => ⟨h1, h2, h3, h4, h5, h6⟩⟩

/-- A character that stays in a user or a password begins no other part of an address. -/
theorem stays_inUserInfo {c : Char} (h : Stays inUserInfo c) : IsAuthorityChar c ∧ c ≠ '@' :=
  h.forall (P := fun c => IsAuthorityChar c ∧ c ≠ '@') (by decide +kernel)

/-! ## Addresses that were read -/

/-- Whether a user, a password and a host are like those of an address that was read. -/
structure Authority.IsWritten (a : Authority) : Prop where
  user : ∀ c ∈ a.user.toList, Stays inUserInfo c
  password : ∀ c ∈ a.password.toList, Stays inUserInfo c
  host : a.host.IsRead

/-- Whether an address of a special scheme, other than a file, is like one that was read. -/
structure IsWritten (u : Url) : Prop where
  special : isSpecial u.scheme = true
  remote : u.scheme ≠ "file"
  authority : ∃ a, u.authority = some a ∧ a.IsWritten
  path : ∃ segments, u.path = .segments segments ∧ ∀ s ∈ segments, ∀ c ∈ s.toList, Stays inPath c

theorem stays_segment (t : List Char) : ∀ c ∈ (segment t).toList, Stays inPath c := by
  intro c hc
  rw [segment, String.toList_ofList] at hc
  exact stays_of_mem (forall_octet (by decide +kernel)) (forall_char (by decide +kernel)) hc

theorem stays_userInfo (t : List Char) : ∀ c ∈ (userInfo t).toList, Stays inUserInfo c := by
  intro c hc
  rw [userInfo, String.toList_ofList] at hc
  exact stays_of_mem (forall_octet (by decide +kernel)) (forall_char (by decide +kernel)) hc

/-- A step adds the segment or a slash to what was there. -/
theorem mem_step {done : List String} {s x : String} {atEnd : Bool} (h : x ∈ step done s atEnd) : x ∈ done ∨ x = s ∨ x = "" := by
  have hslash : x ∈ (if atEnd then [""] else []) → x = "" := by cases atEnd <;> simp
  unfold step at h
  dsimp only at h
  split at h
  · rcases List.mem_append.mp h with h | h
    · unfold back at h
      split at h
      · exact Or.inl h
      · exact Or.inl (List.dropLast_subset _ h)
    · exact Or.inr (Or.inr (hslash h))
  · split at h
    · rcases List.mem_append.mp h with h | h
      · exact Or.inl h
      · exact Or.inr (Or.inr (hslash h))
    · rcases List.mem_append.mp h with h | h
      · exact Or.inl h
      · exact Or.inr (Or.inl (List.mem_singleton.mp h))

/-- What is reached along segments is made of those, of what was there, and of slashes. -/
theorem mem_walk {segments done : List String} {x : String} (h : x ∈ walk done segments) : x ∈ done ∨ x ∈ segments ∨ x = "" := by
  induction segments generalizing done with
  | nil => exact Or.inl h
  | cons s segments ih =>
    rw [walk] at h
    rcases ih h with h | h | h
    · rcases mem_step h with h | rfl | h
      · exact Or.inl h
      · exact Or.inr (Or.inl List.mem_cons_self)
      · exact Or.inr (Or.inr h)
    · exact Or.inr (Or.inl (List.mem_cons_of_mem s h))
    · exact Or.inr (Or.inr h)

/-- In the segments reached along a path, all characters stay, where they do in those at its start. -/
theorem stays_resolve {scheme : String} {start : List String} (hstart : ∀ s ∈ start, ∀ c ∈ s.toList, Stays inPath c)
    {path : List Char} : ∀ s ∈ resolve scheme start path, ∀ c ∈ s.toList, Stays inPath c := by
  intro s hs
  rcases mem_walk hs with h | h | rfl
  · exact hstart s h
  · obtain ⟨t, -, rfl⟩ := List.mem_map.mp h
    exact stays_segment t
  · exact fun c hc => by cases hc

theorem pathBehindHost_written (scheme : String) (s : List Char) :
    ∃ segments, pathBehindHost scheme s = .segments segments ∧ ∀ s ∈ segments, ∀ c ∈ s.toList, Stays inPath c := by
  cases s with
  | nil =>
    refine ⟨_, rfl, fun s hs c hc => ?_⟩
    split at hs
    · rw [List.mem_singleton.mp hs] at hc
      cases hc
    · cases hs
  | cons c s => exact ⟨_, rfl, stays_resolve fun _ h => absurd h List.not_mem_nil⟩

/-! ### Parts of a text -/

theorem mem_splitHost {c : Char} {inside : Bool} {s : List Char} (h : c ∈ (splitHost inside s).1) : c ∈ s := by
  induction s generalizing inside with
  | nil => cases h
  | cons d s ih =>
    rw [splitHost] at h
    split at h
    · cases h
    · rcases List.mem_cons.mp h with rfl | h
      · exact List.mem_cons_self
      · exact List.mem_cons_of_mem d (ih h)

theorem mem_splitUser {c : Char} {s : List Char} (h : c ∈ ((splitUser s).getD ([], s)).2) : c ∈ s := by
  unfold splitUser at h
  split at h
  · exact List.mem_reverse.mp ((List.takeWhile_prefix _).subset (List.mem_reverse.mp h))
  · exact h

theorem mem_trimmed {c : Char} {s : List Char} (h : c ∈ trimmed s) : c ∈ s := by
  have h1 := (List.dropWhile_suffix _).subset (List.mem_reverse.mp h)
  exact (List.dropWhile_suffix _).subset (List.mem_reverse.mp h1)

/-- What follows a scheme is the end of the text. -/
theorem scheme?_suffix {s rest : List Char} {scheme : String} (h : scheme? s = some (scheme, rest)) : rest <:+ s := by
  unfold scheme? at h
  dsimp only at h
  split at h
  · next hdrop =>
    split at h
    · cases h
      exact (List.suffix_cons _ _).trans (hdrop ▸ List.drop_suffix _ s)
    · cases h
  · cases h

/-! ### What is read -/

/-- What is read as user, password and host: two texts that are escaped, and a part of the text that is read as a host. -/
theorem readAuthority_cases {scheme : String} (hs : isSpecial scheme = true) {s rest : List Char} {followed : Bool} {a : Authority}
    (h : readAuthority scheme s followed = .ok (a, rest)) :
    (∃ name password, a.user = userInfo name ∧ a.password = userInfo password) ∧
      ∃ t, (∀ c ∈ t, c ∈ s) ∧ Host.ofSpecial t = .ok a.host := by
  unfold readAuthority at h
  simp only [hs, if_true] at h
  split at h
  · cases h
  · split at h
    · cases h
    · obtain ⟨host, hhost, h⟩ := ok_of_bind h
      split at h
      · cases h
      · obtain ⟨port, -, h⟩ := ok_of_bind h
        split at h
        · cases h
        · cases h
          exact ⟨⟨_, _, rfl, rfl⟩, _, fun c hc => mem_splitUser (mem_splitHost hc), hhost⟩

theorem behindSlashes_cases {scheme : String} (hs : isSpecial scheme = true) {s : List Char} {u : Url}
    (h : behindSlashes scheme s = .ok u) :
    ∃ a path, u.scheme = scheme ∧ u.authority = some a ∧ u.path = pathBehindHost scheme path ∧
      (∃ name password, a.user = userInfo name ∧ a.password = userInfo password) ∧
        ∃ t, (∀ c ∈ t, c ∈ s) ∧ Host.ofSpecial t = .ok a.host := by
  unfold behindSlashes at h
  obtain ⟨⟨a, behindPort⟩, ha, h⟩ := ok_of_bind h
  cases h
  obtain ⟨huser, t, ht, hhost⟩ := readAuthority_cases hs ha
  refine ⟨a, _, rfl, rfl, rfl, huser, t, fun c hc => ?_, hhost⟩
  have hc : c ∈ (splitAuthority (isSpecial scheme) s).1 := ht c hc
  unfold splitAuthority at hc
  rw [List.span_eq_takeWhile_dropWhile] at hc
  exact (List.takeWhile_prefix _).subset hc

theorem fileBehindSlashes_scheme {s : List Char} {u : Url} (h : fileBehindSlashes s = .ok u) : u.scheme = "file" := by
  unfold fileBehindSlashes at h
  dsimp only at h
  split at h
  · cases h
    rfl
  · split at h
    · obtain ⟨host, -, h⟩ := ok_of_bind h
      split at h <;> cases h <;> rfl
    · obtain ⟨host, -, h⟩ := ok_of_bind h
      split at h <;> cases h <;> rfl

/-- What is read as a file is one. -/
theorem file_scheme {base : Option Url} (hb : ∀ b ∈ base, b.scheme = "file") {s : List Char} {u : Url} (h : file base s = .ok u) :
    u.scheme = "file" := by
  unfold file at h
  split at h
  · cases h
    cases base with
    | none => rfl
    | some b => exact hb b rfl
  · split at h
    · split at h
      · split at h
        · exact fileBehindSlashes_scheme h
        · cases h
          rfl
      · cases h
        rfl
    · dsimp only at h
      split at h
      · cases h
        rfl
      · next b =>
        have hscheme := hb b rfl
        split at h
        · cases h
          exact hscheme
        · split at h
          · cases h
            exact hscheme
          · split at h
            · cases h
              rfl
            · cases h
              rfl

theorem other_scheme {scheme : String} {s : List Char} {u : Url} (hs : isSpecial scheme = false) (h : other scheme s = .ok u) :
    isSpecial u.scheme = false := by
  unfold other at h
  split at h
  · unfold behindSlashes at h
    obtain ⟨⟨a, behindPort⟩, -, h⟩ := ok_of_bind h
    cases h
    exact hs
  · cases h
    exact hs
  · cases h
    exact hs

/-- An address of a special scheme that is no file is read behind slashes. -/
theorem ofString_cases {s : String} {u : Url} (h : ofString s = .ok u) (hs : isSpecial u.scheme = true) (hf : u.scheme ≠ "file") :
    ∃ body, body <:+ unbroken (trimmed s.toList) ∧ behindSlashes u.scheme body = .ok u := by
  unfold ofString read at h
  dsimp only at h
  split at h
  · next scheme rest hscheme =>
    unfold absolute at h
    split at h
    · exact absurd (file_scheme (by simp) h) hf
    · dsimp only at h
      split at h
      · next hspecial =>
        obtain ⟨a, path, hsame, -⟩ := behindSlashes_cases hspecial h
        refine ⟨_, ?_, hsame ▸ h⟩
        exact (List.drop_suffix _ _).trans ((scheme?_suffix hscheme).filter _)
      · next hspecial =>
        rw [other_scheme (Bool.eq_false_iff.mpr hspecial) h] at hs
        cases hs
  · cases h

/-- An address that was read is in its written form, where its scheme is special and it is no file. -/
theorem isWritten_of_ofString {s : String} {u : Url} (h : ofString s = .ok u) (hs : isSpecial u.scheme = true)
    (hf : u.scheme ≠ "file") : u.IsWritten := by
  obtain ⟨body, -, hbody⟩ := ofString_cases h hs hf
  obtain ⟨a, path, -, ha, hpath, ⟨name, password, hname, hpassword⟩, t, -, hhost⟩ := behindSlashes_cases hs hbody
  refine ⟨hs, hf, ⟨a, ha, ?_⟩, hpath ▸ pathBehindHost_written u.scheme path⟩
  exact ⟨hname ▸ stays_userInfo name, hpassword ▸ stays_userInfo password, Host.isRead_of_ofSpecial hhost⟩

/-- The host of an address of ordinary characters without percent forms is read as it is written, unless its name is too long. In ASCII
it may have any length. -/
theorem isReadable_of_ofString {s : String} {u : Url} (h : ofString s = .ok u) (hs : isSpecial u.scheme = true)
    (hf : u.scheme ≠ "file") (hplain : ∀ c ∈ s.toList, Domain.isOrdinary c = true ∧ c ≠ '%')
    (hlength : Domain.isAscii s.toList = true ∨ ∀ a ∈ u.authority, a.host.text.length ≤ Domain.Label.longest.2) :
    ∀ a ∈ u.authority, a.host.IsReadable := by
  obtain ⟨body, hbody, hread⟩ := ofString_cases h hs hf
  obtain ⟨a, path, -, ha, -, -, t, ht, hhost⟩ := behindSlashes_cases hs hread
  have hmem : ∀ c ∈ t, c ∈ s.toList := fun c hc => mem_trimmed (List.mem_filter.mp (hbody.subset (ht c hc))).1
  have htext : Text.ofUtf8? (percentDecode (Text.encode t)) = some (String.ofList t) := by
    rw [Host.percentDecode_encode fun hp => (hplain _ (hmem _ hp)).2 rfl, ← Text.octets_ofList, Text.ofUtf8?_octets]
  intro b hb
  refine Host.isReadable_of_ordinary htext (fun c hc => ?_) (by rw [ha] at hb; cases hb; exact hhost)
    (hlength.imp (fun hall => ?_) fun hshort => hshort b hb)
  · rw [String.toList_ofList] at hc
    exact (hplain c (hmem c hc)).1
  · rw [String.toList_ofList]
    exact Domain.isAscii_iff.mpr fun c hc => Domain.isAscii_iff.mp hall c (hmem c hc)

/-! ## The text of a host -/

/-- A colon ends a text without colons and brackets. -/
theorem splitHost_plain {s : List Char} (h : ∀ c ∈ s, c ≠ ':' ∧ c ≠ '[') {rest : List Char}
    (hrest : rest = [] ∨ ∃ t, rest = ':' :: t) : splitHost false (s ++ rest) = (s, rest) := by
  induction s with
  | nil =>
    rcases hrest with rfl | ⟨t, rfl⟩
    · rfl
    · rfl
  | cons c s ih =>
    obtain ⟨h1, h2⟩ := h c List.mem_cons_self
    rw [List.cons_append, splitHost, if_neg fun hc => h1 hc.1]
    simp only [h2, Bool.false_and, Bool.or_false, decide_false, ih fun d hd => h d (List.mem_cons_of_mem c hd)]

/-- A colon between brackets does not end a text. -/
theorem splitHost_inside {s : List Char} (h : ∀ c ∈ s, c ≠ ']') (rest : List Char) :
    splitHost true (s ++ ']' :: rest) = (s ++ ']' :: (splitHost false rest).1, (splitHost false rest).2) := by
  induction s with
  | nil => rfl
  | cons c s ih =>
    have hc := h c List.mem_cons_self
    rw [List.cons_append, splitHost, if_neg (by simp)]
    simp [hc, ih fun d hd => h d (List.mem_cons_of_mem c hd)]

/-- Whether a text can stand for a host in an address: it is not empty, no character in it begins another part, and it ends where a
port begins. -/
structure IsPlace (s : List Char) : Prop where
  nonempty : s ≠ []
  chars : ∀ c ∈ s, IsAuthorityChar c ∧ c ≠ '@'
  ends : ∀ rest, (rest = [] ∨ ∃ t, rest = ':' :: t) → splitHost false (s ++ rest) = (s, rest)

/-- A character of a number of either version begins no other part, and ends no host. -/
theorem number_chars : ∀ c ∈ ".0123456789abcdef".toList, (IsAuthorityChar c ∧ c ≠ '@') ∧ c ≠ ':' ∧ c ≠ '[' ∧ c ≠ ']' :=
  forall_char (by decide)

theorem mem_numberChars {c : Char} (h : c = '.' ∨ c.isDigit = true) : c ∈ ".0123456789abcdef".toList :=
  forall_ascii (P := fun c => (c = '.' ∨ c.isDigit = true) → c ∈ ".0123456789abcdef".toList) (by decide +kernel)
    (Host.dot_or_digit_plain h).1 h

/-- A character that is not forbidden in a domain begins no other part of an address. -/
theorem not_forbidden_chars {c : Char} (h : Domain.isForbidden c = false) : IsAuthorityChar c ∧ c ≠ '@' := by
  have hblank : isOuterBlank c = false := by
    refine decide_eq_false fun hle => ?_
    rw [Domain.isForbidden, decide_eq_true hle] at h
    cases h
  have hbreak : isBreak c = false := by
    refine Bool.eq_false_iff.mpr fun hb => ?_
    simp only [isBreak, Bool.or_eq_true, beq_iff_eq] at hb
    rcases hb with (rfl | rfl) | rfl <;> cases h
  refine ⟨⟨hblank, hbreak, ?_, ?_, ?_, ?_⟩, ?_⟩ <;> rintro rfl <;> cases h

theorem isPlace_name {s : List Char} (hne : s ≠ []) (h : ∀ c ∈ s, Domain.isForbidden c = false) : IsPlace s := by
  refine ⟨hne, fun c hc => not_forbidden_chars (h c hc), fun rest => splitHost_plain fun c hc => ?_⟩
  have hf := h c hc
  constructor <;> rintro rfl <;> cases hf

theorem isPlace_ipv4 (n : Nat) : IsPlace (Host.ipv4 n).text.toList := by
  have hchars : ∀ c ∈ (Host.ipv4 n).text.toList, c ∈ ".0123456789abcdef".toList := by
    intro c hc
    rw [Host.text, Host.toList_ipv4Text] at hc
    exact mem_numberChars (Host.mem_dots hc)
  refine ⟨Host.ipv4Text_ne_nil n, fun c hc => (number_chars c (hchars c hc)).1, fun rest => splitHost_plain fun c hc => ?_⟩
  obtain ⟨-, hcolon, hbracket, -⟩ := number_chars c (hchars c hc)
  exact ⟨hcolon, hbracket⟩

theorem isPlace_ipv6 (pieces : List Nat) : IsPlace (Host.ipv6 pieces).text.toList := by
  have hchars : ∀ c ∈ (Host.ipv6Text pieces).toList, (IsAuthorityChar c ∧ c ≠ '@') ∧ c ≠ ']' := by
    intro c hc
    rcases Host.mem_ipv6Text hc with rfl | ⟨d, hd, rfl⟩
    · decide
    · have hmem := (by decide : ∀ d < 16, Nat.digitChar d ∈ ".0123456789abcdef".toList) d hd
      exact ⟨(number_chars _ hmem).1, (number_chars _ hmem).2.2.2⟩
  rw [Host.toList_text_ipv6]
  refine ⟨List.cons_ne_nil _ _, fun c hc => ?_, fun rest hrest => ?_⟩
  · rcases List.mem_cons.mp hc with rfl | hc
    · decide
    · rcases List.mem_append.mp hc with hc | hc
      · exact (hchars c hc).1
      · rw [List.mem_singleton.mp hc]
        decide
  · have hend : splitHost false rest = ([], rest) := by rcases hrest with rfl | ⟨t, rfl⟩ <;> rfl
    rw [List.cons_append, List.append_assoc, List.singleton_append, splitHost, if_neg (by decide)]
    simp [splitHost_inside fun c hc => (hchars c hc).2, hend]

/-- The host of an address that was read has such a text. -/
theorem Host.IsRead.isPlace {h : Host} (hr : h.IsRead) : IsPlace h.text.toList := by
  cases h with
  | name s => exact isPlace_name (fun he => hr.1 (String.toList_eq_nil_iff.mp he)) hr.2
  | ipv4 n => exact isPlace_ipv4 n
  | ipv6 pieces => exact isPlace_ipv6 pieces

/-! ## Reading what was written -/

/-- The user and the password stand before the last at sign. -/
theorem splitUser_append (user : List Char) {place : List Char} (h : '@' ∉ place) :
    splitUser (user ++ '@' :: place) = some (user, place) := by
  have hc : (user ++ '@' :: place).contains '@' = true := List.contains_iff_mem.mpr (by simp)
  have hplace : ∀ c ∈ place.reverse, (decide (c ≠ '@')) = true := by
    intro c hc
    rw [decide_eq_true_eq]
    rintro rfl
    exact h (List.mem_reverse.mp hc)
  have hbehind : ((user ++ '@' :: place).reverse.takeWhile (· ≠ '@')).reverse = place := by
    rw [List.reverse_append, List.reverse_cons, List.append_assoc, List.takeWhile_append_of_pos hplace]
    simp
  have hlength : (user ++ '@' :: place).length - place.length - 1 = user.length := by
    rw [List.length_append, List.length_cons]
    omega
  rw [splitUser, if_pos hc]
  simp only [hbehind, hlength, List.take_left]

theorem splitUser_of_none {place : List Char} (h : '@' ∉ place) : splitUser place = none :=
  if_neg fun hc => h (List.contains_iff_mem.mp hc)

/-- What stands before a host is a user and a password, or nothing. -/
theorem credentials_cases (a : Authority) : a.credentials = "" ∨ ∃ before, a.credentials = before ++ "@" ∧
    ∀ c ∈ before.toList, c = ':' ∨ c ∈ a.user.toList ∨ c ∈ a.password.toList := by
  unfold Authority.credentials
  dsimp only
  split
  · exact Or.inl rfl
  · refine Or.inr ⟨_, rfl, fun c hc => ?_⟩
    rw [String.toList_append, List.mem_append] at hc
    rcases hc with hc | hc
    · exact Or.inr (Or.inl hc)
    · split at hc
      · cases hc
      · rw [String.toList_append, List.mem_append] at hc
        rcases hc with hc | hc
        · exact Or.inl (List.mem_singleton.mp hc)
        · exact Or.inr (Or.inr hc)

/-- The port as it stands behind a host. -/
def portText (port : Option UInt16) : List Char := port.elim [] fun p => ':' :: Nat.toDigits 10 p.toNat

theorem toList_place (a : Authority) : a.place.toList = a.host.text.toList ++ portText a.port := by
  rw [Authority.place, String.toList_append]
  cases a.port with
  | none => rfl
  | some p => rw [Option.elim_some, String.toList_append, Nat.toString_eq_repr, Nat.toList_repr]; rfl

/-- The digits of a port are read. -/
theorem port?_portText (scheme : String) (port : Option UInt16) : ∃ p, port? scheme ((portText port).drop 1) = .ok p := by
  unfold port?
  cases port with
  | none => exact ⟨none, rfl⟩
  | some p =>
    have hdigits : (Nat.toDigits 10 p.toNat).all Char.isDigit = true := List.all_eq_true.mpr fun c => Decimal.isDigit_of_mem
    have hsize : ¬UInt16.size ≤ p.toNat := Nat.not_le_of_lt p.toNat_lt
    rw [portText, Option.elim_some, List.drop_one, List.tail_cons, if_pos hdigits, Decimal.ofDigits_toDigits, if_neg hsize]
    split
    · exact ⟨none, rfl⟩
    · exact ⟨_, rfl⟩

theorem portText_digits {port : Option UInt16} {c : Char} (h : c ∈ portText port) : c = ':' ∨ c.isDigit = true := by
  cases port with
  | none => cases h
  | some p => exact (List.mem_cons.mp h).imp id Decimal.isDigit_of_mem

/-- A character of a host with its port begins no other part of an address. -/
theorem place_chars {a : Authority} (ha : a.IsWritten) {c : Char} (hc : c ∈ a.place.toList) : IsAuthorityChar c ∧ c ≠ '@' := by
  rw [toList_place, List.mem_append] at hc
  rcases hc with hc | hc
  · exact ha.host.isPlace.chars c hc
  · rcases portText_digits hc with rfl | hd
    · decide
    · exact (number_chars c (mem_numberChars (Or.inr hd))).1

/-- A character of a user or a password, or behind one, begins no path, query or fragment. -/
theorem credentials_chars {a : Authority} (ha : a.IsWritten) {c : Char} (hc : c ∈ a.credentials.toList) : IsAuthorityChar c := by
  rcases credentials_cases a with he | ⟨before, he, hbefore⟩
  · rw [he] at hc
    cases hc
  · rw [he, String.toList_append, List.mem_append] at hc
    rcases hc with hc | hc
    · rcases hbefore c hc with rfl | hc | hc
      · decide
      · exact (stays_inUserInfo (ha.user c hc)).1
      · exact (stays_inUserInfo (ha.password c hc)).1
    · rw [List.mem_singleton.mp hc]
      decide

/-- What stands between the slashes and the path of an address. -/
def authorityText (a : Authority) : List Char := a.credentials.toList ++ a.place.toList

theorem authority_chars {a : Authority} (ha : a.IsWritten) {c : Char} (hc : c ∈ authorityText a) : IsAuthorityChar c :=
  (List.mem_append.mp hc).elim (credentials_chars ha) fun hc => (place_chars ha hc).1

theorem place_ne_nil {a : Authority} (ha : a.IsWritten) : a.place.toList ≠ [] := by
  rw [toList_place]
  exact List.append_ne_nil_of_left_ne_nil ha.host.isPlace.nonempty _

/-- A host with its port stands behind the last at sign. -/
theorem splitUser_authorityText {a : Authority} (ha : a.IsWritten) :
    ∃ user, (splitUser (authorityText a)).getD ([], authorityText a) = (user, a.place.toList) := by
  have hat : '@' ∉ a.place.toList := fun hc => (place_chars ha hc).2 rfl
  rw [authorityText]
  rcases credentials_cases a with he | ⟨before, he, -⟩
  · rw [he, String.toList_empty, List.nil_append, splitUser_of_none hat]
    exact ⟨[], rfl⟩
  · rw [he, String.toList_append, List.append_assoc, show "@".toList = ['@'] from rfl, List.singleton_append,
      splitUser_append _ hat]
    exact ⟨before.toList, rfl⟩

/-- A port stands behind its host. -/
theorem splitHost_place {a : Authority} (ha : a.IsWritten) :
    splitHost false a.place.toList = (a.host.text.toList, portText a.port) := by
  rw [toList_place]
  refine ha.host.isPlace.ends _ ?_
  cases a.port with
  | none => exact Or.inl rfl
  | some p => exact Or.inr ⟨_, rfl⟩

/-- A user, a password, a host and a port are read, where the host is read as it is written. -/
theorem readAuthority_text {scheme : String} (hs : isSpecial scheme = true) {a : Authority} (ha : a.IsWritten)
    (hr : a.host.IsReadable) (followed : Bool) : ∃ a', readAuthority scheme (authorityText a) followed = .ok (a', []) := by
  obtain ⟨host, hhost⟩ := hr
  obtain ⟨port, hport⟩ := port?_portText scheme a.port
  obtain ⟨user, huser⟩ := splitUser_authorityText ha
  have hplaced : a.place.toList.isEmpty = false := List.isEmpty_eq_false_iff.mpr (place_ne_nil ha)
  have hnonempty : a.host.text.toList.isEmpty = false := List.isEmpty_eq_false_iff.mpr ha.host.isPlace.nonempty
  have hbackslash : ((portText a.port).drop 1).span (· ≠ '\\') = ((portText a.port).drop 1, []) := by
    refine span_of_all fun c hc => decide_eq_true ?_
    rcases portText_digits (List.mem_of_mem_drop hc) with rfl | hd
    · decide
    · exact (number_chars c (mem_numberChars (Or.inr hd))).1.1.backslash
  unfold readAuthority
  simp only [huser, splitHost_place ha, hs, hnonempty, hplaced, hhost, hbackslash, hport, Bool.and_false, Bool.false_and,
    Bool.false_eq_true, if_false, if_true]
  exact ⟨_, rfl⟩

/-- A character of a path is no blank, and begins no query and no fragment. -/
theorem path_chars {segments : List String} (h : ∀ s ∈ segments, ∀ c ∈ s.toList, Stays inPath c) {c : Char}
    (hc : c ∈ (Path.segments segments).text.toList) : isOuterBlank c = false ∧ isBreak c = false ∧ c ≠ '?' ∧ c ≠ '#' := by
  rw [toList_segments] at hc
  obtain ⟨p, hp, hc⟩ := List.mem_flatMap.mp hc
  obtain ⟨s, hs, rfl⟩ := List.mem_map.mp hp
  rcases List.mem_cons.mp hc with rfl | hc
  · decide
  · exact stays_inPath (h s hs c hc)

/-- The text of a query behind a path. -/
def queryText (query : Option String) : List Char := query.elim [] fun q => '?' :: q.toList

/-- What stands behind the authority of an address without a fragment. -/
def behindText (segments : List String) (query : Option String) : List Char :=
  (Path.segments segments).text.toList ++ queryText query

section

variable {segments : List String} {query : Option String}

/-- A character behind the authority is no blank. -/
theorem behind_chars (hsegments : ∀ s ∈ segments, ∀ c ∈ s.toList, Stays inPath c)
    (hq : ∀ q ∈ query, ∀ c ∈ q.toList, Stays inSpecialQuery c) {c : Char} (hc : c ∈ behindText segments query) :
    isOuterBlank c = false ∧ isBreak c = false := by
  rcases List.mem_append.mp hc with hc | hc
  · obtain ⟨hblank, hbreak, -⟩ := path_chars hsegments hc
    exact ⟨hblank, hbreak⟩
  · cases query with
    | none => cases hc
    | some q =>
      rcases List.mem_cons.mp hc with rfl | hc
      · decide
      · obtain ⟨hblank, hbreak, -⟩ := stays_inSpecialQuery (hq q rfl c hc)
        exact ⟨hblank, hbreak⟩

/-- A path begins with a slash, and a query with its mark. -/
theorem head_behindText {c : Char} (hc : (behindText segments query).head? = some c) : c = '/' ∨ c = '?' := by
  rw [behindText, toList_segments] at hc
  cases segments with
  | nil =>
    cases query with
    | none => cases hc
    | some q => exact Or.inr (Option.some.inj hc).symm
  | cons s segments => exact Or.inl (Option.some.inj hc).symm

/-- The authority ends where the path or the query begins. -/
theorem splitAuthority_text {a : Authority} (ha : a.IsWritten) :
    splitAuthority true (authorityText a ++ behindText segments query) = (authorityText a, behindText segments query) := by
  refine span_append (fun c hc => ?_) fun c hc => ?_
  · obtain ⟨-, -, hslash, hbackslash, hquestion, hhash⟩ := authority_chars ha hc
    simp [hslash, hbackslash, hquestion, hhash]
  · rcases head_behindText hc with rfl | rfl <;> decide

/-- The path ends where the query begins. -/
theorem splitPath_text (hsegments : ∀ s ∈ segments, ∀ c ∈ s.toList, Stays inPath c) :
    splitPath (behindText segments query) = ((Path.segments segments).text.toList, queryText query) := by
  refine span_append (fun c hc => ?_) fun c hc => ?_
  · obtain ⟨-, -, hquestion, hhash⟩ := path_chars hsegments hc
    simp [hquestion, hhash]
  · cases query with
    | none => cases hc
    | some q =>
      rw [← Option.some.inj hc]
      decide

/-- The query is read from its text. -/
theorem tail_queryText (hq : ∀ q ∈ query, ∀ c ∈ q.toList, Stays inSpecialQuery c) : (tail true (queryText query)).1 = query := by
  cases query with
  | none => rfl
  | some q =>
    have hstays := hq q rfl
    have hend : q.toList.span (· ≠ '#') = (q.toList, []) :=
      span_of_all fun c hc => decide_eq_true (stays_inSpecialQuery (hstays c hc)).2.2
    rw [queryText, Option.elim_some, tail]
    simp only [hend, if_true, percentEncode_of_stays hstays, String.ofList_toList]

/-- What is written behind slashes is read, with its query. -/
theorem behindSlashes_text {scheme : String} (hs : isSpecial scheme = true) {a : Authority} (ha : a.IsWritten)
    (hr : a.host.IsReadable) (hsegments : ∀ s ∈ segments, ∀ c ∈ s.toList, Stays inPath c)
    (hq : ∀ q ∈ query, ∀ c ∈ q.toList, Stays inSpecialQuery c) :
    ∃ v, behindSlashes scheme (authorityText a ++ behindText segments query) = .ok v ∧ v.query = query := by
  obtain ⟨a', hread⟩ := readAuthority_text hs ha hr (!(behindText segments query).isEmpty)
  rw [behindSlashes]
  simp only [hs, splitAuthority_text ha, hread]
  refine ⟨_, rfl, ?_⟩
  rw [List.nil_append, splitPath_text hsegments]
  exact tail_queryText hq

end

/-- The text of an address in parts. -/
theorem toList_text {u : Url} {a : Authority} (ha : u.authority = some a) {segments : List String} (hp : u.path = .segments segments)
    (hf : u.fragment = none) :
    u.text.toList = u.scheme.toList ++ ':' :: '/' :: '/' :: (authorityText a ++ behindText segments u.query) := by
  have hquery : (u.query.elim "" ("?" ++ ·)).toList = queryText u.query := by
    cases u.query with
    | none => rfl
    | some q => exact String.toList_append ..
  simp only [text, authorityText, behindText, ha, hp, hf, Option.elim_some, Option.elim_none, String.toList_append, hquery,
    String.toList_empty, List.append_nil, show ":".toList = [':'] from rfl, show "//".toList = ['/', '/'] from rfl,
    List.append_assoc, List.cons_append, List.nil_append]

/-- The special schemes other than that of files. -/
theorem remote_cases {scheme : String} (hs : isSpecial scheme = true) (hf : scheme ≠ "file") :
    scheme ∈ ["http", "https", "ws", "wss", "ftp"] := by
  obtain ⟨p, hp, he⟩ := List.lookup_isSome_iff.mp hs
  have hall : ∀ p ∈ specialPorts, p.1 ≠ "file" → p.1 ∈ ["http", "https", "ws", "wss", "ftp"] := by decide
  rw [beq_iff_eq.mp he] at hf ⊢
  exact hall p hp hf

theorem scheme_chars {scheme : String} (hs : isSpecial scheme = true) (hf : scheme ≠ "file") :
    ∀ c ∈ scheme.toList, isOuterBlank c = false := by
  have hall : ∀ s ∈ ["http", "https", "ws", "wss", "ftp"], (s.toList.all fun c => decide (isOuterBlank c = false)) = true := by
    decide
  exact forall_char (hall scheme (remote_cases hs hf))

/-- A special scheme is read from its text. -/
theorem scheme?_special {scheme : String} (hs : isSpecial scheme = true) (hf : scheme ≠ "file") (rest : List Char) :
    scheme? (scheme.toList ++ ':' :: rest) = some (scheme, rest) := by
  have hmem := remote_cases hs hf
  simp only [List.mem_cons, List.not_mem_nil, or_false] at hmem
  rcases hmem with rfl | rfl | rfl | rfl | rfl <;> rfl

/-- What stands behind two slashes is read there. -/
theorem absolute_slashes {scheme : String} (hs : isSpecial scheme = true) (hf : scheme ≠ "file") {body : List Char}
    (hbreak : ∀ c ∈ body, isBreak c = false) (hstart : ∀ c ∈ body.head?, isSlash true c = false) :
    absolute none scheme ('/' :: '/' :: body) = behindSlashes scheme body := by
  have hunbroken : unbroken ('/' :: '/' :: body) = '/' :: '/' :: body := by
    refine List.filter_eq_self.mpr fun c hc => ?_
    simp only [List.mem_cons] at hc
    rcases hc with rfl | rfl | hc
    · rfl
    · rfl
    · rw [hbreak c hc]
      rfl
  have hslashes : ('/' :: '/' :: body).takeWhile (isSlash true) = ['/', '/'] := by
    cases body with
    | nil => rfl
    | cons c body =>
      have hc : isSlash true c = false := hstart c rfl
      rw [List.takeWhile_cons_of_pos rfl, List.takeWhile_cons_of_pos rfl, List.takeWhile_cons_of_neg (by rw [hc]; decide)]
  rw [absolute, if_neg hf]
  simp only [hunbroken, hs, if_true, hslashes]
  rfl

/-- An address that was read is read back from its text, with its query, where its host is read as it is written and no fragment
follows. -/
theorem ofString_text {u : Url} (hu : u.IsWritten) (hr : ∀ a ∈ u.authority, a.host.IsReadable)
    (hq : ∀ q ∈ u.query, ∀ c ∈ q.toList, Stays inSpecialQuery c) (hf : u.fragment = none) :
    ∃ v, ofString u.text = .ok v ∧ v.query = u.query := by
  obtain ⟨a, hauthority, ha⟩ := hu.authority
  obtain ⟨segments, hpath, hsegments⟩ := hu.path
  obtain ⟨v, hv, hquery⟩ := behindSlashes_text hu.special ha (hr a hauthority) hsegments hq
  have htext := toList_text hauthority hpath hf
  have hbody : ∀ c ∈ authorityText a ++ behindText segments u.query, isOuterBlank c = false ∧ isBreak c = false := by
    intro c hc
    rcases List.mem_append.mp hc with hc | hc
    · exact ⟨(authority_chars ha hc).unblank, (authority_chars ha hc).unbroken⟩
    · exact behind_chars hsegments hq hc
  have hstart : ∀ c ∈ (authorityText a ++ behindText segments u.query).head?, isSlash true c = false := by
    intro c hc
    have hne : authorityText a ≠ [] := List.append_ne_nil_of_right_ne_nil _ (place_ne_nil ha)
    rw [List.head?_append_of_ne_nil _ hne] at hc
    have hplain := authority_chars ha (List.mem_of_mem_head? hc)
    simp [isSlash, hplain.slash, hplain.backslash]
  have htrim : trimmed u.text.toList = u.text.toList := by
    refine trimmed_of_plain fun c hc => ?_
    rw [htext, List.mem_append] at hc
    rcases hc with hc | hc
    · exact scheme_chars hu.special hu.remote c hc
    · simp only [List.mem_cons] at hc
      rcases hc with rfl | rfl | rfl | hc
      · rfl
      · rfl
      · rfl
      · exact (hbody c hc).1
  refine ⟨v, ?_, hquery⟩
  rw [ofString, read, htrim, htext, scheme?_special hu.special hu.remote]
  exact (absolute_slashes hu.special hu.remote (fun c hc => (hbody c hc).2) hstart).trans hv

/-! ## Addresses seen from what was read -/

section

variable {base : Url} {first : String} {rest : List String}

/-- What is seen from an address has its scheme. -/
theorem join_scheme (hfirst : first ≠ "") (h : ∀ s ∈ first :: rest, ∀ c ∈ s.toList, isSegmentChar c = true) {u : Url}
    (hu : base.join (pathText first rest) = .ok u) : u.scheme = base.scheme := by
  rw [join_pathText hfirst h] at hu
  split at hu
  · next hf =>
    rw [hf]
    refine file_scheme (fun b hb => ?_) hu
    rw [← Option.some.inj hb]
    exact hf
  · split at hu
    · cases hu
      rfl
    · cases hu

/-- What is seen along a path from an address in its written form has that form, and the same host. -/
theorem IsWritten.join (hb : base.IsWritten) (hfirst : first ≠ "")
    (h : ∀ s ∈ first :: rest, ∀ c ∈ s.toList, isSegmentChar c = true) :
    ∃ segments, base.join (pathText first rest) = .ok { base with path := .segments segments, query := none, fragment := none } ∧
      ∀ s ∈ segments, ∀ c ∈ s.toList, Stays inPath c := by
  obtain ⟨start, hp, hstart⟩ := hb.path
  refine ⟨_, join_path hb.remote hp hfirst h, fun s hs => ?_⟩
  rcases mem_walk hs with hs | hs | rfl
  · exact hstart s (List.dropLast_subset _ hs)
  · intro c hc
    obtain ⟨-, -, ha, hplain⟩ := segmentChar_plain (h s hs c hc)
    exact ⟨ha, hplain⟩
  · exact fun c hc => by cases hc

end

end ControlPlane.Url
