import RuntimeFlag.Listing.Rows
import RuntimeFlag.Proofs.Collection
import RuntimeFlag.Proofs.Confinement
/-!
# What a listing fetches

A listing walks the applications, then the spaces, then the organizations if a space does not name
its own. The first two walks decide whether it succeeds; the third one decides only which names
its rows can show.
-/
namespace RuntimeFlag.Listing

open Dialogue

variable {client : Client} {value : String}

/-! ## Spaces that name their organization -/

/-- The space holds the name of its organization. -/
def NamesOwner (space : Space) : Prop :=
  ∃ organization, space.organization = some organization ∧ organization.name ≠ ""

theorem isNone_ownerName?_iff {space : Space} :
    space.ownerName?.isNone = true ↔ ¬ NamesOwner space := by
  unfold Space.ownerName? NamesOwner
  cases space.organization with
  | none => simp
  | some organization => by_cases h : organization.name = "" <;> simp [Option.filter, h]

theorem needsOrganizations_iff {spaces : List Space} :
    Directory.needsOrganizations spaces = true ↔ ∃ space ∈ spaces, ¬ NamesOwner space := by
  simp only [Directory.needsOrganizations, List.any_eq_true, isNone_ownerName?_iff]

/-! ## Walks of a listing -/

def appWalk (client : Client) (value : String) (runtime : Runtime) : Walk Application :=
  Query.walk { client.query .apps with filter := some (.flag runtime.flag) } value
    Catalog.application

def spaceWalk (client : Client) (value : String) : Walk Space :=
  (client.query .spaces).walk value Catalog.space

def organizationWalk (client : Client) (value : String) : Walk Organization :=
  (client.query .organizations).walk value Catalog.organization

/-- What is logged when the organizations cannot be had. -/
def unlisted (failure : Failure) : LogEntry :=
  ⟨.warn, .listCommand, "Could not list organizations, showing GUIDs instead: " ++ failure.message⟩

/-- The rows that applications have with spaces and organizations. -/
def joined (apps : List Application) (spaces : List Space) (organizations : List Organization) :
    List Row :=
  (Directory.ofLists spaces organizations).rows apps

/-- The ways that a listing can go: its result, what it sends, what it warns of, and the outcomes
that it leaves. -/
inductive Course (client : Client) (value : String) (runtime : Runtime) (wire : List Outcome) :
    Except Failure (List Row) → List Request → List LogEntry → List Outcome → Prop
  | noApps {failure : Failure} {sent : List Request} {rest : List Outcome}
    (first : (appWalk client value runtime).Stops wire failure sent rest) :
    Course client value runtime wire (.error failure) sent [] rest
  | noSpaces {apps : List Application} {failure : Failure} {sent more : List Request}
    {rest left : List Outcome} (first : (appWalk client value runtime).Gives wire apps sent rest)
    (second : (spaceWalk client value).Stops rest failure more left) :
    Course client value runtime wire (.error failure) (sent ++ more) [] left
  | named {apps : List Application} {spaces : List Space} {sent more : List Request}
    {rest left : List Outcome} (first : (appWalk client value runtime).Gives wire apps sent rest)
    (second : (spaceWalk client value).Gives rest spaces more left)
    (names : ∀ space ∈ spaces, NamesOwner space) :
    Course client value runtime wire (.ok (joined apps spaces [])) (sent ++ more) [] left
  | listed {apps : List Application} {spaces : List Space} {organizations : List Organization}
    {sent more last : List Request} {rest left spare : List Outcome}
    (first : (appWalk client value runtime).Gives wire apps sent rest)
    (second : (spaceWalk client value).Gives rest spaces more left)
    (lacks : ∃ space ∈ spaces, ¬ NamesOwner space)
    (third : (organizationWalk client value).Gives left organizations last spare) :
    Course client value runtime wire (.ok (joined apps spaces organizations))
      (sent ++ more ++ last) [] spare
  | unlisted {apps : List Application} {spaces : List Space} {failure : Failure}
    {sent more last : List Request} {rest left spare : List Outcome}
    (first : (appWalk client value runtime).Gives wire apps sent rest)
    (second : (spaceWalk client value).Gives rest spaces more left)
    (lacks : ∃ space ∈ spaces, ¬ NamesOwner space)
    (third : (organizationWalk client value).Stops left failure last spare) :
    Course client value runtime wire (.ok (joined apps spaces [])) (sent ++ more ++ last)
      [unlisted failure] spare

/-! ## Steps -/

private theorem organizationsFor_fetches_of_named (client : Client) {spaces : List Space}
    (h : ∀ space ∈ spaces, NamesOwner space) (wire : List Outcome) :
    Fetches (organizationsFor client spaces) wire (.ok []) [] [] wire := by
  have hneeds : ¬ Directory.needsOrganizations spaces = true := by
    rw [needsOrganizations_iff]
    rintro ⟨space, hs, hn⟩
    exact hn (h space hs)
  rw [organizationsFor, if_neg hneeds]
  exact Fetches.pure _

private theorem organizationsFor_fetches_of_gives (hv : client.settings.credential = .ok value)
    {spaces : List Space} (h : ∃ space ∈ spaces, ¬ NamesOwner space) {wire rest : List Outcome}
    {organizations : List Organization} {sent : List Request}
    (hw : (organizationWalk client value).Gives wire organizations sent rest) :
    Fetches (organizationsFor client spaces) wire (.ok organizations) sent [] rest := by
  have hwalk : Fetches client.listOrganizations wire (.ok organizations) sent [] rest :=
    Client.walk_fetches_of_gives hv hw
  rw [organizationsFor, if_pos (needsOrganizations_iff.mpr h)]
  exact hwalk.attempt.bind_pure (Fetches.pure organizations)

private theorem organizationsFor_fetches_of_stops (hv : client.settings.credential = .ok value)
    {spaces : List Space} (h : ∃ space ∈ spaces, ¬ NamesOwner space) {wire rest : List Outcome}
    {failure : Failure} {sent : List Request}
    (hw : (organizationWalk client value).Stops wire failure sent rest) :
    Fetches (organizationsFor client spaces) wire (.ok []) sent [unlisted failure] rest := by
  have hwalk : Fetches client.listOrganizations wire (.error failure) sent [] rest :=
    Client.walk_fetches_of_stops hv hw
  rw [organizationsFor, if_pos (needsOrganizations_iff.mpr h)]
  rw [← List.append_nil sent]
  exact hwalk.attempt.bind (Fetches.log_seq (Fetches.pure []))

section Steps

variable {runtime : Runtime} {wire rest left spare : List Outcome} {apps : List Application}
  {spaces : List Space} {sent more last : List Request} {failure : Failure}

private theorem rows_fetches_of_noApps (hv : client.settings.credential = .ok value)
    (h : (appWalk client value runtime).Stops wire failure sent rest) :
    Fetches (rows client runtime) wire (.error failure) sent [] rest := by
  have happs :
      Fetches (client.listApplications runtime.flag) wire (.error failure) sent [] rest :=
    Client.walk_fetches_of_stops hv h
  exact happs.bind_error _

private theorem rows_fetches_of_noSpaces (hv : client.settings.credential = .ok value)
    (ha : (appWalk client value runtime).Gives wire apps sent rest)
    (hs : (spaceWalk client value).Stops rest failure more left) :
    Fetches (rows client runtime) wire (.error failure) (sent ++ more) [] left := by
  have happs : Fetches (client.listApplications runtime.flag) wire (.ok apps) sent [] rest :=
    Client.walk_fetches_of_gives hv ha
  have hspaces : Fetches client.listSpaces rest (.error failure) more [] left :=
    Client.walk_fetches_of_stops hv hs
  exact happs.bind (hspaces.bind_error _).debug_seq

private theorem rows_fetches_of_spaces (hv : client.settings.credential = .ok value)
    (ha : (appWalk client value runtime).Gives wire apps sent rest)
    (hs : (spaceWalk client value).Gives rest spaces more left)
    {organizations : List Organization} {warned : List LogEntry}
    (ho : Fetches (organizationsFor client spaces) left (.ok organizations) last warned spare) :
    Fetches (rows client runtime) wire (.ok (joined apps spaces organizations))
      (sent ++ more ++ last) warned spare := by
  have happs : Fetches (client.listApplications runtime.flag) wire (.ok apps) sent [] rest :=
    Client.walk_fetches_of_gives hv ha
  have hspaces : Fetches client.listSpaces rest (.ok spaces) more [] left :=
    Client.walk_fetches_of_gives hv hs
  rw [List.append_assoc]
  refine happs.bind (Fetches.debug_seq (hspaces.bind (ho.bind_pure ?_)))
  exact Fetches.debug_seq (Fetches.pure _)

end Steps

/-! ## Listings -/

theorem rows_fetches {runtime : Runtime} {wire rest : List Outcome}
    {result : Except Failure (List Row)} {sent : List Request} {warned : List LogEntry}
    (hv : client.settings.credential = .ok value)
    (h : Course client value runtime wire result sent warned rest) :
    Fetches (rows client runtime) wire result sent warned rest := by
  cases h with
  | noApps first => exact rows_fetches_of_noApps hv first
  | noSpaces first second => exact rows_fetches_of_noSpaces hv first second
  | named first second names =>
    have horganizations := organizationsFor_fetches_of_named client names rest
    have hrows := rows_fetches_of_spaces hv first second horganizations
    rwa [List.append_nil] at hrows
  | listed first second lacks third =>
    exact rows_fetches_of_spaces hv first second (organizationsFor_fetches_of_gives hv lacks third)
  | unlisted first second lacks third =>
    exact rows_fetches_of_spaces hv first second (organizationsFor_fetches_of_stops hv lacks third)

/-- Every outcomes lead a listing one of the ways. -/
theorem exists_course (client : Client) (value : String) (runtime : Runtime)
    (wire : List Outcome) :
    ∃ result sent warned rest, Course client value runtime wire result sent warned rest := by
  rcases (appWalk client value runtime).gives_or_stops wire with
    ⟨apps, sent, rest, first⟩ | ⟨failure, sent, rest, first⟩
  · rcases (spaceWalk client value).gives_or_stops rest with
      ⟨spaces, more, left, second⟩ | ⟨failure, more, left, second⟩
    · by_cases lacks : ∃ space ∈ spaces, ¬ NamesOwner space
      · rcases (organizationWalk client value).gives_or_stops left with
          ⟨organizations, last, spare, third⟩ | ⟨failure, last, spare, third⟩
        · exact ⟨_, _, _, _, .listed first second lacks third⟩
        · exact ⟨_, _, _, _, .unlisted first second lacks third⟩
      · have names : ∀ space ∈ spaces, NamesOwner space := by
          intro space hs
          exact Classical.byContradiction fun hn => lacks ⟨space, hs, hn⟩
        exact ⟨_, _, _, _, .named first second names⟩
    · exact ⟨_, _, _, _, .noSpaces first second⟩
  · exact ⟨_, _, _, _, .noApps first⟩

private theorem Course.ok_iff {runtime : Runtime} {wire rest : List Outcome}
    {result : Except Failure (List Row)} {sent : List Request} {warned : List LogEntry}
    (h : Course client value runtime wire result sent warned rest) :
    (∃ listed, result = .ok listed) ↔ ∃ apps asked left spaces more spare,
      (appWalk client value runtime).Gives wire apps asked left ∧
      (spaceWalk client value).Gives left spaces more spare := by
  cases h with
  | noApps first =>
    refine ⟨fun ⟨_, h⟩ => (nomatch h), ?_⟩
    rintro ⟨apps, asked, left, spaces, more, spare, happs, -⟩
    exact (happs.not_stops first).elim
  | noSpaces first second =>
    refine ⟨fun ⟨_, h⟩ => (nomatch h), ?_⟩
    rintro ⟨apps, asked, left, spaces, more, spare, happs, hspaces⟩
    obtain ⟨-, -, rfl⟩ := first.unique happs
    exact (hspaces.not_stops second).elim
  | named first second => exact ⟨fun _ => ⟨_, _, _, _, _, _, first, second⟩, fun _ => ⟨_, rfl⟩⟩
  | listed first second => exact ⟨fun _ => ⟨_, _, _, _, _, _, first, second⟩, fun _ => ⟨_, rfl⟩⟩
  | unlisted first second => exact ⟨fun _ => ⟨_, _, _, _, _, _, first, second⟩, fun _ => ⟨_, rfl⟩⟩

/-- A listing goes exactly the way that the outcomes of its walks lead it, and it succeeds exactly
when the applications and the spaces can be had. -/
theorem rows_exact (runtime : Runtime) (wire : List Outcome)
    (hv : client.settings.credential = .ok value) :
    let report := rows client runtime wire
    (∀ result sent warned rest, (report.result = result ∧ report.requests = sent ∧
        report.warnings = warned ∧ report.unused = rest) ↔
      Course client value runtime wire result sent warned rest) ∧
    ((∃ listed, report.result = .ok listed) ↔ ∃ apps sent rest spaces more left,
      (appWalk client value runtime).Gives wire apps sent rest ∧
      (spaceWalk client value).Gives rest spaces more left) := by
  obtain ⟨result, sent, warned, rest, hcourse⟩ := exists_course client value runtime wire
  obtain ⟨⟨rfl, rfl, -, rfl⟩, rfl⟩ := rows_fetches hv hcourse
  refine ⟨fun result sent warned rest => ⟨?_, ?_⟩, hcourse.ok_iff⟩
  · rintro ⟨rfl, rfl, rfl, rfl⟩
    exact hcourse
  · intro h
    obtain ⟨⟨hresult, hrequests, -, hunused⟩, hwarnings⟩ := rows_fetches hv h
    exact ⟨hresult, hrequests, hwarnings, hunused⟩

/-- A listing whose organizations may not be read: it succeeds, with one warning. -/
theorem rows_exact_forbidden :
    let apps := "\x7b\"resources\":[\x7b\"metadata\":\x7b\"guid\":\"a\"\x7d,\"entity\":\x7b" ++
      "\"name\":\"web\",\"space_guid\":\"s\",\"diego\":true\x7d\x7d]\x7d"
    let spaces := "\x7b\"resources\":[\x7b\"metadata\":\x7b\"guid\":\"s\"\x7d,\"entity\":\x7b" ++
      "\"name\":\"dev\",\"organization_guid\":\"o\"\x7d\x7d]\x7d"
    let wire : List Outcome :=
      [.ok apps.toUTF8.toList, .ok spaces.toUTF8.toList, .error .forbidden]
    let report := rows .loopback .diego wire
    Client.loopback.settings.credential = .ok "bearer abc" ∧ report.requests.length = 3 ∧
      report.warnings = [unlisted (.api .forbidden)] ∧ (∃ listed, report.result = .ok listed) ∧
      Course .loopback "bearer abc" .diego wire report.result report.requests report.warnings
        report.unused := by
  intro apps spaces wire report
  have hv : Client.loopback.settings.credential = .ok "bearer abc" := by decide +kernel
  obtain ⟨hcourse, hok⟩ := rows_exact .diego wire hv
  have hway := (hcourse _ _ _ _).mp ⟨rfl, rfl, rfl, rfl⟩
  have hlisted : report.result.isOk = true := by decide +kernel
  refine ⟨hv, by decide +kernel, by decide +kernel, ?_, hway⟩
  cases hresult : report.result with
  | ok listed => exact ⟨listed, rfl⟩
  | error failure =>
    rw [hresult] at hlisted
    cases hlisted

end RuntimeFlag.Listing
