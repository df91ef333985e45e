import JudgeClient.Config
import JudgeClient.Proofs.Text.Blank
import JudgeClient.Proofs.Toml.Document

/-!
# The origin of the API

Every URL of a request is the origin of the API with a path behind it.  The path starts with a
slash, so the origin must not end in one, wherever it comes from: from the configuration's document,
from the default, or from the build.

* `Config.IsOrigin` : what is left of a text without the slashes at its end, without a word about
  how it is found;
* `Config.Writes` : what the entries of a document say;
* `Config.ofToml_eq_ok_iff` : the documents that are accepted, and what is made of them;
* `Config.ofToml_eq_ok_iff_of_isDocument` : the same for documents without tables, in terms of what
  they spell;
* `Config.origin_never_ends_in_slash` : the origin in use.
-/

namespace JudgeClient

namespace Config

/-! ### Slashes at the end -/

/-- The second text is the first one without the run of slashes that it ends in. -/
def IsOrigin (raw origin : String) : Prop :=
  (∃ n, raw.toList = origin.toList ++ List.replicate n '/') ∧ origin.toList.getLast? ≠ some '/'

theorem trimOrigin_eq_iff {raw origin : String} :
    trimOrigin raw = origin ↔ IsOrigin raw origin := by
  rw [IsOrigin, ← Text.dropTrailing_eq_iff, trimOrigin, ← String.toList_inj, String.toList_ofList]

/-- Nothing is left to take away. -/
theorem trimOrigin_of_isOrigin {raw origin : String} (h : IsOrigin raw origin) :
    trimOrigin origin = origin := by
  refine trimOrigin_eq_iff.2 ⟨⟨0, ?_⟩, h.2⟩
  rw [List.replicate_zero, List.append_nil]

/-! ### What a document says -/

/-- The entries have the three values, where an absent key has its default. -/
structure Writes (entries : Toml.Entries) (origin site : String) (interval : Nat) : Prop where
  origin : (Toml.Entries.get? "api_server" entries).getD (.text "http://localhost:12345") =
    .text origin
  site : (Toml.Entries.get? "site_name" entries).getD (.text "Rust Course Online Judge") =
    .text site
  interval : (Toml.Entries.get? "poll_interval_ms" entries).getD (.int 1000) = .int interval

section Entry

variable {key : String} {entries : Toml.Entries}

theorem textEntry?_eq_some_iff {default s : String} : textEntry? key default entries = some s ↔
    (Toml.Entries.get? key entries).getD (.text default) = .text s := by
  unfold textEntry?
  split
  · next h => simp [h]
  · next h => simp [h]
  · next node hne h =>
    simp only [h, Option.getD_some, reduceCtorEq, false_iff]
    rintro rfl
    exact hne _ rfl

theorem natEntry?_eq_some_iff {default n : Nat} : natEntry? key default entries = some n ↔
    (Toml.Entries.get? key entries).getD (.int default) = .int n := by
  unfold natEntry?
  split
  · next h =>
    simp only [h, Option.getD_none, Option.some.injEq, Toml.Node.int.injEq, Int.natCast_inj]
  · next i h =>
    simp only [h, Option.getD_some, Toml.Node.int.injEq]
    by_cases hi : 0 ≤ i
    · rw [if_pos hi, Option.some.injEq]
      omega
    · rw [if_neg hi]
      simp only [reduceCtorEq, false_iff]
      omega
  · next node hne h =>
    simp only [h, Option.getD_some, reduceCtorEq, false_iff]
    rintro rfl
    exact hne _ rfl

end Entry

theorem ofEntries?_eq_some_iff {entries : Toml.Entries} {c : Config} :
    ofEntries? entries = some c ↔ ∃ origin, Writes entries origin c.siteName c.pollIntervalMs ∧
      IsOrigin origin c.apiServer := by
  simp only [ofEntries?, Option.bind_eq_bind, Option.bind_eq_some_iff, Option.pure_def,
    textEntry?_eq_some_iff, natEntry?_eq_some_iff, Option.some.injEq]
  constructor
  · rintro ⟨origin, horigin, site, hsite, interval, hinterval, rfl⟩
    exact ⟨origin, ⟨horigin, hsite, hinterval⟩, trimOrigin_eq_iff.1 rfl⟩
  · rintro ⟨origin, hwrites, horigin⟩
    refine ⟨origin, hwrites.origin, c.siteName, hwrites.site, c.pollIntervalMs, hwrites.interval,
      ?_⟩
    rw [trimOrigin_eq_iff.2 horigin]

/-- A document is accepted if it is well-formed and the three keys have values of their types. -/
theorem ofToml_eq_ok_iff {text : String} {c : Config} : ofToml text = .ok c ↔
    ∃ entries origin, Toml.parse text = some entries ∧
      Writes entries origin c.siteName c.pollIntervalMs ∧ IsOrigin origin c.apiServer := by
  simp only [exists_and_left, ← ofEntries?_eq_some_iff]
  rw [← Option.bind_eq_some_iff, ofToml]
  cases h : (Toml.parse text).bind ofEntries? with
  | none => simp
  | some config => simp

/-- The document that the client comes with sets the defaults. -/
example : ofToml bundled = .ok current := by rfl

/-- A document without tables is accepted if the three keys have values of their types, however keys
and values are spelled, in whatever order they come, and whatever else is assigned. -/
theorem ofToml_eq_ok_iff_of_isDocument {text : String} {entries : Toml.Entries} {c : Config}
    (h : Toml.Grammar.IsDocument text entries) : ofToml text = .ok c ↔
      ∃ origin, Writes entries origin c.siteName c.pollIntervalMs ∧
        IsOrigin origin c.apiServer := by
  rw [ofToml_eq_ok_iff, Toml.parse_of_isDocument h]
  constructor
  · rintro ⟨_, origin, ⟨⟩, hc⟩
    exact ⟨origin, hc⟩
  · rintro ⟨origin, hc⟩
    exact ⟨entries, origin, rfl, hc⟩

/-! ### The origin in use -/

/-- The origin that is given, or else the one that is written. -/
theorem isOrigin_withApiServer {c : Config} {written : String} (h : IsOrigin written c.apiServer)
    (given : Option String) :
    IsOrigin (given.getD written) (c.withApiServer given).apiServer := by
  cases given with
  | none => exact h
  | some origin => exact trimOrigin_eq_iff.1 rfl

/-- Giving an origin changes nothing else. -/
theorem withApiServer_eq (c : Config) (given : Option String) :
    c.withApiServer given = { c with apiServer := (c.withApiServer given).apiServer } := by
  cases given <;> rfl

/-- An origin that is in use may be given again. -/
theorem withApiServer_self {c : Config} {raw : String} (h : IsOrigin raw c.apiServer) :
    c.withApiServer (some c.apiServer) = c := by
  rw [withApiServer, trimOrigin_of_isOrigin h]

/-- The path of a URL has no slash before it but the ones inside the origin. -/
theorem joinOrigin_of_isOrigin {raw origin : String} (h : IsOrigin raw origin) (path : String) :
    ∃ before, (joinOrigin origin path).toList = before ++ path.toList ∧
      before.getLast? ≠ some '/' :=
  ⟨origin.toList, String.toList_append, h.2⟩

/-- **The origin never ends in a slash.**  A document of assignments is accepted if the three keys
have values of their types, in any spelling and in any order, or are absent.  With any document that
is accepted, and whether or not an origin is given besides, the origin in use is the given one, or
else the written one or the default, without the slashes at its end.  The name of the site and the
interval of polling are those of the document.  An origin that is in use may be given again, and in
a URL no slash stands before the path. -/
theorem origin_never_ends_in_slash (text : String) :
    (∀ entries, Toml.Grammar.IsDocument text entries → ∀ config, ofToml text = .ok config ↔
      ∃ written, Writes entries written config.siteName config.pollIntervalMs ∧
        IsOrigin written config.apiServer) ∧
    ∀ config, ofToml text = .ok config → ∀ given,
      let c := config.withApiServer given
      (∃ entries written, Toml.parse text = some entries ∧
        Writes entries written c.siteName c.pollIntervalMs ∧
        IsOrigin (given.getD written) c.apiServer) ∧
      c.withApiServer (some c.apiServer) = c ∧
      ∀ path, ∃ before, (joinOrigin c.apiServer path).toList = before ++ path.toList ∧
        before.getLast? ≠ some '/' := by
  refine ⟨fun entries h config => ofToml_eq_ok_iff_of_isDocument h, ?_⟩
  intro config h given c
  obtain ⟨entries, written, hparse, hwrites, horigin⟩ := ofToml_eq_ok_iff.1 h
  have huse : IsOrigin (given.getD written) c.apiServer := isOrigin_withApiServer horigin given
  refine ⟨⟨entries, written, hparse, ?_, huse⟩, withApiServer_self huse,
    joinOrigin_of_isOrigin huse⟩
  show Writes entries written (config.withApiServer given).siteName
    (config.withApiServer given).pollIntervalMs
  rwa [withApiServer_eq]

/-- A document with a comment, a quoted key and an escaped slash.  The build's origin takes the
place of the document's, and both end in slashes. -/
theorem origin_never_ends_in_slash_of_both :
    let text := "# judge\n'site_name' = 'Judge'\napi_server=\"http://judge:8080\\u002F/\""
    let config : Config := ⟨"http://judge:8080", "Judge", 1000⟩
    let c := config.withApiServer (some "https://oj.example.com///")
    Toml.Grammar.IsDocument text
      [("site_name", .text "Judge"), ("api_server", .text "http://judge:8080//")] ∧
    ofToml text = .ok config ∧ c = ⟨"https://oj.example.com", "Judge", 1000⟩ ∧
      c.withApiServer (some c.apiServer) = c ∧
      ∃ before, (joinOrigin c.apiServer "/jobs").toList = before ++ "/jobs".toList ∧
        before.getLast? ≠ some '/' := by
  intro text config c
  let origin := "\"http://judge:8080\\u002F/\"".toList
  let last := "api_server=".toList ++ origin
  let lines := "'site_name' = 'Judge'\n".toList ++ last
  have hserver : Toml.Grammar.Text origin "http://judge:8080//".toList [] :=
    Toml.Grammar.text_iff.1 (by decide)
  have hname : Toml.Grammar.Text ("'Judge'\n".toList ++ last) "Judge".toList ('\n' :: last) :=
    Toml.Grammar.text_iff.1 (by decide)
  have hkey : Toml.Grammar.Key lines "site_name" (" = 'Judge'\n".toList ++ last) :=
    .literal (Toml.Grammar.literal_of_readLiteral (v := "site_name".toList) (by decide))
  have hbare : ∀ c ∈ "api_server".toList, Toml.isBareChar c = true :=
    List.all_eq_true.1 (by decide)
  have hlastKey : Toml.Grammar.Key last "api_server" ('=' :: origin) :=
    .bare (by decide) hbare (by rintro _ ⟨⟩; rfl)
  -- a line is followed by the lines behind it, so the last one comes first
  have hlast : Toml.Grammar.Assigns last [("api_server", .text "http://judge:8080//")] :=
    .entry hlastKey rfl (.text hserver) rfl (.done rfl)
  have hlines : Toml.Grammar.Assigns lines
      [("site_name", .text "Judge"), ("api_server", .text "http://judge:8080//")] :=
    .entry hkey rfl (.text hname) rfl hlast
  have hassigns : Toml.Grammar.Assigns text.toList
      [("site_name", .text "Judge"), ("api_server", .text "http://judge:8080//")] :=
    .blank (by decide) (by decide) hlines
  have hdoc : Toml.Grammar.IsDocument text
      [("site_name", .text "Judge"), ("api_server", .text "http://judge:8080//")] :=
    ⟨⟨text.toList, hassigns, .inl String.ofList_toList.symm⟩, by decide⟩
  have h : ofToml text = .ok config := ((origin_never_ends_in_slash text).1 _ hdoc config).2
    ⟨"http://judge:8080//", ⟨rfl, rfl, rfl⟩, ⟨2, by decide⟩, by decide⟩
  obtain ⟨-, hself, hpath⟩ :=
    (origin_never_ends_in_slash text).2 config h (some "https://oj.example.com///")
  exact ⟨hdoc, h, by rfl, hself, hpath "/jobs"⟩

end Config

end JudgeClient
