import ControlPlane.Decimal.Word
import ControlPlane.Json.Encoding
import ControlPlane.Page
import ControlPlane.Url.Parser

/-!
# Pages as the platform sends them

The second version of the interface sends a page with the number of all pages, with links to the pages before and after, or
with both; the third version sends links. A link names a page by its first `page` pair.
-/

namespace ControlPlane

/-! ## Numbers of pages in links -/

/-- The address that links without a host are seen from. -/
def linkBase : Url :=
  { scheme := "http", authority := some { host := .name "localhost" }, path := .segments [""] }

/-- The address that a link leads to. -/
def linkTarget? (href : String) : Option Url :=
  match Url.ofString href with
  | .ok u => some u
  | .error .relativeWithoutBase => (linkBase.join href).toOption
  | .error _ => none

/-- The number of the page that a link leads to. -/
def linkedPage? (href : String) : Option UInt32 := do
  let u ← linkTarget? href
  let (_, value) ← u.queryPairs.find? (·.1 == "page")
  Decimal.word32? value

/-! ## The second version -/

/-- A page of the second version. -/
structure Envelope (α : Type) where
  totalResults : Option UInt64 := none
  totalPages : Option UInt32 := none
  prevUrl : Option String := none
  nextUrl : Option String := none
  resources : List α := []
deriving Repr

namespace Envelope

variable {α β : Type}

/-- The page with the number asked for. Where the number of all pages is known, links do not count. -/
def toPage (e : Envelope α) (number : UInt32) : Page α :=
  let page := match e.totalPages with
    | some total => Page.counted e.resources number (some total)
    | none => Page.linked e.resources number (e.nextUrl.bind linkedPage?)
  page.withTotalResults e.totalResults

/-- The page with each resource changed. -/
def map (f : α → β) (e : Envelope α) : Envelope β := { e with resources := e.resources.map f }

/-- The JSON form of a page. -/
def toJson (item : α → Json) (e : Envelope α) : Json :=
  .object [("total_results", .ofOption .ofWord64 e.totalResults), ("total_pages", .ofOption .ofWord32 e.totalPages),
    ("prev_url", .ofOption .text e.prevUrl), ("next_url", .ofOption .text e.nextUrl),
    ("resources", .ofList item e.resources)]

/-- Reads a page. -/
def decoder (item : Json.Decoder α) : Json.Decoder (Envelope α) :=
  (Json.Record.of Envelope.mk
    |>.optional "total_results" .word64
    |>.optional "total_pages" .word32
    |>.optional "prev_url" .text
    |>.optional "next_url" .text
    |>.defaulted "resources" item.list []).decoder "PaginatedResponse"

end Envelope

/-! ## The third version -/

/-- A link. -/
structure Link where
  href : String
deriving DecidableEq, Repr

/-- Where a page stands in its list. -/
structure Pagination where
  totalResults : Option UInt64 := none
  totalPages : Option UInt32 := none
  next : Option Link := none
  previous : Option Link := none
deriving DecidableEq, Repr

/-- A page of the third version. -/
structure EnvelopeV3 (α : Type) where
  pagination : Pagination := {}
  resources : List α := []
deriving Repr

/-- The JSON form of a link. -/
def Link.toJson (l : Link) : Json := .object [("href", .text l.href)]

/-- Reads a link. -/
def Link.decoder : Json.Decoder Link := (Json.Record.of Link.mk |>.required "href" .text).decoder "Link"

/-- The JSON form of the place of a page. -/
def Pagination.toJson (p : Pagination) : Json :=
  .object [("total_results", .ofOption .ofWord64 p.totalResults), ("total_pages", .ofOption .ofWord32 p.totalPages),
    ("next", .ofOption Link.toJson p.next), ("previous", .ofOption Link.toJson p.previous)]

/-- Reads the place of a page. -/
def Pagination.decoder : Json.Decoder Pagination :=
  (Json.Record.of Pagination.mk
    |>.optional "total_results" .word64
    |>.optional "total_pages" .word32
    |>.optional "next" Link.decoder
    |>.optional "previous" Link.decoder).decoder "Pagination"

namespace EnvelopeV3

variable {α : Type}

/-- The page with the number asked for. Only links count for the page after it. -/
def toPage (e : EnvelopeV3 α) (number : UInt32) : Page α :=
  let page := Page.linked e.resources number (e.pagination.next.bind fun l => linkedPage? l.href)
  { page with totalPages := e.pagination.totalPages }.withTotalResults e.pagination.totalResults

/-- The JSON form of a page. -/
def toJson (item : α → Json) (e : EnvelopeV3 α) : Json :=
  .object [("pagination", e.pagination.toJson), ("resources", .ofList item e.resources)]

/-- Reads a page. -/
def decoder (item : Json.Decoder α) : Json.Decoder (EnvelopeV3 α) :=
  (Json.Record.of EnvelopeV3.mk
    |>.defaulted "pagination" Pagination.decoder {}
    |>.defaulted "resources" item.list []).decoder "PaginatedResponseV3"

end EnvelopeV3

end ControlPlane
