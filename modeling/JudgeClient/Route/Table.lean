import JudgeClient.Route.Pattern

/-!
# The route table

Which page a location opens.  The rows of a table are tried in order, and the first pattern that
matches the location's path wins; the location's query goes to the page as parameters.  A row with
a name shows it in the title, a row without one passes its captures on to the page.

`RouteTable.app` is the table of the application.
-/

namespace JudgeClient

/-- The pages of the client. -/
inductive PageKind
  | home
  | problemList
  | problemSubmission
  | submissionList
  | submissionStatus
  | contestList
  | contestPage
  | rankList
deriving DecidableEq, Repr

/-! ### Rows and tables -/

/-- A row of a table as it is declared. -/
structure RouteRow where
  name : Option String
  pattern : String
  page : PageKind

/-- A row of a table with its pattern read. -/
structure RouteEntry where
  pattern : Pattern
  name : Option String
  page : PageKind
  /-- The captures are passed on to the page. -/
  forwardsParams : Bool
deriving DecidableEq, Repr

/-- The rows of the client, in the order in which they are tried. -/
structure RouteTable where
  entries : List RouteEntry
deriving DecidableEq, Repr

/-! ### Resolutions -/

/-- The page of a location, with what the location says to it. -/
structure ResolvedRoute where
  page : PageKind
  name : Option String
  params : Params
  query : Params
  forwardsParams : Bool
deriving DecidableEq, Repr

/-- What the page is given: the captures, if the row passes them on. -/
def ResolvedRoute.props (r : ResolvedRoute) : Params :=
  if r.forwardsParams then r.params else .empty

/-- What a location stands for. -/
inductive Resolution
  | found (route : ResolvedRoute)
  | notFound (location : String)
deriving DecidableEq, Repr

namespace Resolution

/-- The page, if there is one. -/
def page? : Resolution → Option PageKind
  | .found route => some route.page
  | .notFound _ => none

/-- The name of the page's row, if it has one. -/
def name? : Resolution → Option String
  | .found route => route.name
  | .notFound _ => none

/-- The title of a document: the name of its page, if it has one, and the name of the site. -/
def documentTitle (name : Option String) (site : String) : String :=
  match name with
  | some name => name ++ " - " ++ site
  | none => site

/-- The title of the document that shows the resolution. -/
def title (r : Resolution) (site : String) : String := documentTitle r.name? site

end Resolution

namespace RouteTable

/-! ### Building -/

/-- The entry of a row.  A row without a name passes its captures on. -/
def entryOfRow (row : RouteRow) : Except PatternError RouteEntry := do
  return {
    pattern := ← Pattern.parse row.pattern
    name := row.name
    page := row.page
    forwardsParams := row.name.isNone }

/-- The table with the given rows; the first row that is no pattern is an error. -/
def build (rows : List RouteRow) : Except PatternError RouteTable := do
  return ⟨← rows.mapM entryOfRow⟩

/-! ### Resolving -/

/-- The path and the query of a location.  An empty path is the root. -/
def splitLocation (location : String) : List Char × List Char :=
  let path := location.toList.takeWhile (· != '?')
  let query := (location.toList.dropWhile (· != '?')).drop 1
  (if path.isEmpty then ['/'] else path, query)

/-- The first entry whose pattern matches, with its captures. -/
def find? (path : List Char) : List RouteEntry → Option (RouteEntry × Params)
  | [] => none
  | entry :: rest =>
    match entry.pattern.matches? path with
    | some params => some (entry, params)
    | none => find? path rest

/-- The parameters of a query; a malformed query has none. -/
def queryParams (query : List Char) : Params :=
  match Params.ofQuery query with
  | .ok params => params
  | .error _ => .empty

/-- What a location stands for. -/
def resolve (t : RouteTable) (location : String) : Resolution :=
  let (path, query) := splitLocation location
  match find? path t.entries with
  | none => .notFound location
  | some (entry, params) =>
    .found {
      page := entry.page
      name := entry.name
      params := params
      query := queryParams query
      forwardsParams := entry.forwardsParams }

/-! ### The application's table -/

/-- The rows of the application. -/
def appRows : List RouteRow := [
  ⟨some "Home", "/", .home⟩,
  ⟨some "Problems", "/problems", .problemList⟩,
  ⟨none, "/problem/:id(\\d+)", .problemSubmission⟩,
  ⟨some "Submissions", "/submissions", .submissionList⟩,
  ⟨none, "/submission/:id(\\d+)", .submissionStatus⟩,
  ⟨some "Contests", "/contests", .contestList⟩,
  ⟨none, "/contest/:id(\\d+)", .contestPage⟩,
  ⟨none, "/contest/:contestId(\\d+)/problem/:id(\\d+)", .problemSubmission⟩,
  ⟨none, "/contest/:contestId(\\d+)/submissions", .submissionList⟩,
  ⟨some "Rank List", "/ranklist", .rankList⟩]

/-- The application's table.  All its patterns are well formed, so it has an entry for each of its
rows; `build_appRows` says so. -/
def app : RouteTable := (build appRows).toOption.getD ⟨[]⟩

theorem build_appRows : build appRows = .ok app := rfl

end RouteTable

end JudgeClient
