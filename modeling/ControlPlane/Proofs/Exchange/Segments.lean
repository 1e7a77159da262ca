import ControlPlane.Proofs.Exchange.Requests
import ControlPlane.Proofs.Url.Trailing

/-!
# Ids as segments of paths

A client whose address ends in its path, as `Client.ofAddress` makes it, asks behind that path (`Client.AsksAlong.path_eq`): the segments
of a route are walked along from there. An id is one of them, and stands for itself unless it is one or two dots, which an address takes
for a way to stay or to go back, in percent form or not. The main statement is `Client.ids_stay_segments`: just where the id is no dots,
the path of a request is that of the client's address and then that of the route, and then the path tells the route with its id.
-/

namespace ControlPlane

open Platform

/-! ## Routes and their segments -/

namespace Platform.Route

/-- Around an id there are words: one before it, and perhaps one behind it. -/
theorem branch_of_id {r : Route} {id : String} (h : r.id? = some id) : ∃ parent ∈ words, ∃ child : List String,
    r.branch = parent :: Url.segmentText id :: child ∧ ∀ w ∈ child, w ∈ words := by
  cases r with
  | organizations => cases h
  | health => cases h
  | spaces | spaceQuotas | serviceInstances =>
    cases h
    refine ⟨_, ?_, _, rfl, ?_⟩
    · decide
    · intro w hw
      rw [List.mem_singleton.mp hw]
      decide
  | space | serviceInstance | userProvidedServiceInstance | job =>
    cases h
    refine ⟨_, ?_, _, rfl, ?_⟩
    · decide
    · intro w hw
      exact absurd hw List.not_mem_nil

/-- Whether the id of a route, if it has one, is no dots. -/
def IsDotless (r : Route) : Prop := ∀ id ∈ r.id?, id ≠ "." ∧ id ≠ ".."

/-- The id of a route stands for itself where it is no dots. -/
theorem IsDotless.segments {r : Route} (h : r.IsDotless) :
    ∀ s ∈ r.root :: r.branch, Url.isSingleDot s = false ∧ Url.isDoubleDot s = false := by
  intro s hs
  rcases List.mem_cons.mp hs with rfl | hs
  · exact r.isPlainSegment_root.dotless
  · rcases mem_branch hs with hword | ⟨id, hid, rfl⟩
    · exact (isPlainSegment_of_mem_words hword).dotless
    · obtain ⟨hsingle, hdouble⟩ := h id hid
      by_cases hempty : id = ""
      · rw [hempty]
        decide
      · exact (Url.isPlainSegment_segmentText hempty hsingle hdouble).dotless

/-- The segments of a route tell the route. -/
theorem eq_of_root_branch {r r' : Route} (h : r.root :: r.branch = r'.root :: r'.branch) : r = r' := by
  obtain ⟨hroot, hbranch⟩ := List.cons.inj h
  -- Routes of different kinds differ in a word behind the root, but for the versions of a job, which are the roots.
  cases r <;> cases r' <;> simp [branch] at hbranch
  case job.job version id version' id' =>
    cases Url.segmentText_injective hbranch
    cases version <;> cases version' <;> first | rfl | simp [root] at hroot
  case organizations.organizations => rfl
  case health.health => rfl
  all_goals exact congrArg _ (Url.segmentText_injective hbranch)

/-- The path of a route tells the route. -/
theorem eq_of_path {r r' : Route} (h : r.path = r'.path) : r = r' := by
  have hsplit (r : Route) : Text.split (· == '/') r.path.toList = (r.root :: r.branch).map String.toList := by
    refine Url.split_pathText (by decide) ?_ r.segments_chars
    intro c hc
    exact beq_eq_false_iff_ne.mpr (Url.segmentChar_plain hc).2.1.1
  have hparts : (r.root :: r.branch).map String.toList = (r'.root :: r'.branch).map String.toList := by
    rw [← hsplit, ← hsplit, h]
  exact eq_of_root_branch (List.map_injective_iff.mpr (fun _ _ => String.toList_inj.mp) hparts)

end Platform.Route

namespace Client

variable {token address : String} {c : Client} {r : Route} {q : Http.Request}

/-- The path of a client's address ends in a slash, where that is not the end of a query or a fragment. -/
theorem path_of_ofAddress (hc : ofAddress token address = .ok c) (husable : isUsable c.base = true) (hquery : c.base.query = none)
    (hfragment : c.base.fragment = none) : ∃ before, c.base.path = .segments (before ++ [""]) := by
  obtain ⟨hspecial, hfile⟩ := scheme_of_isUsable husable
  have hslash : (if address.toList.getLast? = some '/' then address else address ++ "/").toList.getLast? = some '/' := by
    split
    · next hlast => exact hlast
    · rw [String.toList_append, List.getLast?_append]
      rfl
  unfold ofAddress at hc
  split at hc
  · next base hread =>
    cases hc
    exact Url.path_of_trailing hread hspecial hfile hslash hquery hfragment
  · cases hc

/-- The segments of a route are walked along from the path of the client's address. -/
theorem AsksAlong.path_eq (hc : ofAddress token address = .ok c) (hquery : c.base.query = none) (hfragment : c.base.fragment = none)
    (h : c.AsksAlong r q) :
    ∃ before, c.base.path = .segments (before ++ [""]) ∧ q.url.path = .segments (Url.walk before (r.root :: r.branch)) := by
  obtain ⟨method, change, pairs, hchange, hq⟩ := h.requestAt
  obtain ⟨start, hstart, husable, hpath, -⟩ := requestAt_cases r.isPlainSegment_root.nonempty r.segments_chars hchange hq
  obtain ⟨before, hbefore⟩ := path_of_ofAddress hc husable hquery hfragment
  rw [hbefore] at hstart
  cases hstart
  rw [List.dropLast_concat] at hpath
  exact ⟨before, hbefore, hpath⟩

/-- The text of a path behind another one. -/
theorem text_behind (before : List String) (r : Route) :
    (Url.Path.segments (before ++ r.root :: r.branch)).text = (Url.Path.segments (before ++ [""])).text ++ r.path := by
  rw [← String.toList_inj, String.toList_append, Url.toList_segments, Url.toList_segments, Route.path, Url.toList_pathText]
  simp

/-- The words before an id are walked along, whatever the id is. -/
theorem walk_words (before rest : List String) (r : Route) {parent : String} (h : parent ∈ Route.words) :
    Url.walk before (r.root :: parent :: rest) = Url.walk (before ++ [r.root] ++ [parent]) rest := by
  have hdotless : ∀ s ∈ [r.root, parent], Url.isSingleDot s = false ∧ Url.isDoubleDot s = false := by
    intro s hs
    rcases List.mem_cons.mp hs with rfl | hs
    · exact r.isPlainSegment_root.dotless
    · rw [List.mem_singleton.mp hs]
      exact (isPlainSegment_of_mem_words h).dotless
  have hwalk : Url.walk before ([r.root, parent] ++ rest) = Url.walk (before ++ [r.root, parent]) rest :=
    Url.walk_append hdotless before
  rw [List.append_assoc]
  exact hwalk

/-- A dot, and two dots, make the way of a route shorter. -/
theorem length_of_dots (before : List String) {r : Route} {id : String} (hid : r.id? = some id) (hdots : id = "." ∨ id = "..") :
    (Url.Path.segments (Url.walk before (r.root :: r.branch))).text.toList.length <
      (Url.Path.segments (before ++ r.root :: r.branch)).text.toList.length := by
  obtain ⟨parent, hparent, child, hbranch, hchild⟩ := Route.branch_of_id hid
  have hbehind (done : List String) : Url.walk done child = done ++ child :=
    Url.walk_of_plain (fun w hw => isPlainSegment_of_mem_words (hchild w hw)) done
  rw [hbranch, walk_words before _ r hparent, Url.toList_segments, Url.toList_segments]
  rcases hdots with rfl | rfl
  · have hsegment : Url.segmentText "." = "." := by decide +kernel
    rw [hsegment, Url.walk_dot]
    split
    · next hnone => simp [hnone]
    · simp only [hbehind, List.map_append, List.map_cons, List.map_nil, List.flatMap_append, List.flatMap_cons, List.flatMap_nil,
        List.length_append, List.length_cons, List.length_nil]
      omega
  · have hsegment : Url.segmentText ".." = ".." := by decide +kernel
    have hback : Url.holdsBack parent = false := by
      have hall : ∀ w ∈ Route.words, Url.holdsBack w = false := by decide +kernel
      exact hall parent hparent
    rw [hsegment, Url.walk_dots hback]
    split
    · next hnone => simp [hnone]
    · simp only [hbehind, List.map_append, List.map_cons, List.map_nil, List.flatMap_append, List.flatMap_cons, List.flatMap_nil,
        List.length_append, List.length_cons, List.length_nil]
      omega

/-- Just where its id is no dots, a client asks for a route behind the path of its address, if that has no query and no fragment: there the
path of the request is that of the address and then the words of the route, with its id, percent-encoded, as one segment between them. Such
paths are the same for no two routes, and so for no two ids. -/
theorem ids_stay_segments {token address : String} {c : Client} (hc : ofAddress token address = .ok c) (hquery : c.base.query = none)
    (hfragment : c.base.fragment = none) :
    (∀ r q, c.AsksAlong r q → (q.url.path.text = c.base.path.text ++ r.path ↔ r.IsDotless)) ∧
      ∀ r q r' q', c.AsksAlong r q → c.AsksAlong r' q' → r.IsDotless → r'.IsDotless → q.url.path.text = q'.url.path.text →
        r = r' := by
  have hkeeps : ∀ r q, c.AsksAlong r q → (q.url.path.text = c.base.path.text ++ r.path ↔ r.IsDotless) := by
    intro r q h
    obtain ⟨before, hbefore, hpath⟩ := h.path_eq hc hquery hfragment
    rw [hpath, hbefore]
    constructor
    · intro htext id hid
      refine not_or.mp fun hdots => ?_
      have hshorter := length_of_dots before hid hdots
      rw [htext, text_behind] at hshorter
      exact Nat.lt_irrefl _ hshorter
    · intro hdotless
      rw [Url.walk_of_dotless hdotless.segments, text_behind]
  refine ⟨hkeeps, ?_⟩
  intro r q r' q' h h' hdotless hdotless' hsame
  have htext := (hkeeps r q h).mpr hdotless
  have htext' := (hkeeps r' q' h').mpr hdotless'
  have hpaths : c.base.path.text ++ r.path = c.base.path.text ++ r'.path := by rw [← htext, ← htext', hsame]
  exact Route.eq_of_path (String.append_right_inj _ |>.mp hpaths)

/-- Whatever marks an id has, it stays one segment, and is not taken for the id of a job. -/
theorem ids_stay_segments_marks : ∃ c, ofAddress "t" "http://api.test/cf" = .ok c ∧ c.base.query = none ∧ c.base.fragment = none ∧
    ∃ q, c.spaceDeletion { id := "a/../b?c", name := "dev" } = .ok q ∧ q.url.path.text = "/cf/v2/spaces/a%2F..%2Fb%3Fc" ∧
      ∀ q', c.statusRequest .v2 "a/../b?c" = .ok q' → q'.url.path.text ≠ q.url.path.text := by
  have hc : ofAddress "t" "http://api.test/cf" =
      .ok ⟨⟨"http", some { host := .name "api.test" }, .segments ["cf", ""], none, none⟩, "t"⟩ := rfl
  obtain ⟨q, hq⟩ : ∃ q, spaceDeletion ⟨⟨"http", some { host := .name "api.test" }, .segments ["cf", ""], none, none⟩, "t"⟩
      { id := "a/../b?c", name := "dev" } = .ok q := by
    simp only [spaceDeletion, deletionRequest, requestAt]
    exact ⟨_, rfl⟩
  obtain ⟨hkeeps, htell⟩ := ids_stay_segments hc rfl rfl
  have hspace : (Route.space "a/../b?c").IsDotless := by
    rintro id ⟨⟩
    decide
  have hjob : (Route.job .v2 "a/../b?c").IsDotless := by
    rintro id ⟨⟩
    decide
  refine ⟨_, hc, rfl, rfl, q, hq, ?_, ?_⟩
  · rw [(hkeeps _ q (.space hq)).mpr hspace]
    decide +kernel
  · intro q' hq' hsame
    cases htell _ q' _ q (.job hq') (.space hq) hjob hspace hsame

/-- Whether a client asks for every route behind the path of its address, whatever the id is. -/
def KeepsIds (c : Client) : Prop :=
  ∀ r q, c.AsksAlong r q → r.id? ≠ some "" → q.url.path.text = c.base.path.text ++ r.path

/-- An id of two dots is no segment: the space and the service instance of that id are both deleted where neither is. -/
theorem not_keepsIds : ∃ c, ofAddress "t" "http://api.test" = .ok c ∧ c.base.query = none ∧ c.base.fragment = none ∧ ¬c.KeepsIds ∧
    ∃ q q', c.AsksAlong (.space "..") q ∧ c.AsksAlong (.serviceInstance "..") q' ∧ q.url.path.text = "/v2/" ∧
      q'.url.path.text = "/v2/" := by
  have hc : ofAddress "t" "http://api.test" =
      .ok ⟨⟨"http", some { host := .name "api.test" }, .segments [""], none, none⟩, "t"⟩ := rfl
  refine ⟨_, hc, rfl, rfl, ?_⟩
  obtain ⟨q, hq, hpath⟩ : ∃ q, spaceDeletion ⟨⟨"http", some { host := .name "api.test" }, .segments [""], none, none⟩, "t"⟩
      { id := "..", name := "dev" } = .ok q ∧ q.url.path.text = "/v2/" := by
    simp only [spaceDeletion, deletionRequest, requestAt]
    exact ⟨_, rfl, by decide +kernel⟩
  obtain ⟨q', hq', hpath'⟩ : ∃ q, serviceInstanceDeletion
      ⟨⟨"http", some { host := .name "api.test" }, .segments [""], none, none⟩, "t"⟩
      { id := "..", name := "db", origin := .managed } = .ok q ∧ q.url.path.text = "/v2/" := by
    simp only [serviceInstanceDeletion, deletionRequest, requestAt]
    exact ⟨_, rfl, by decide +kernel⟩
  refine ⟨?_, q, q', .space hq, .serviceInstance rfl hq', hpath, hpath'⟩
  intro hkeeps
  have hkept := hkeeps _ q (.space hq) (by decide)
  rw [hpath] at hkept
  exact absurd hkept (by decide +kernel)

end Client

end ControlPlane
