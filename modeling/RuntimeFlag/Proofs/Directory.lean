import Mathlib.Data.List.Forall2
import Mathlib.Data.List.Nodup
import RuntimeFlag.Proofs.Rows
/-!
# Rows by the lists alone

The lists that a directory is made of may hold a guid more than once; then the last record counts.
What a row shows is told here by the lists, without the directory. So the order of records does not
matter when each guid stands once, records that no row asks for do not matter at all, and the
organizations matter exactly when a space does not name its own.
-/
namespace RuntimeFlag

section Lists

variable {α : Type} {guidOf : α → String} {guid : String} {records others : List α} {record : α}

/-- The record is the last one of a list that has the guid. -/
def LastWith (guidOf : α → String) (guid : String) (records : List α) (record : α) : Prop :=
  ∃ before behind, records = before ++ record :: behind ∧ guidOf record = guid ∧
    ∀ other ∈ behind, guidOf other ≠ guid

/-- A list with other records put in anywhere, each of which satisfies a condition. -/
inductive Gains (P : α → Prop) : List α → List α → Prop
  | nil : Gains P [] []
  | keep (record : α) {records more : List α} (h : Gains P records more) :
    Gains P (record :: records) (record :: more)
  | add {record : α} {records more : List α} (hp : P record) (h : Gains P records more) :
    Gains P records (record :: more)

/-- What a list tells about a guid. -/
def lastWith? (guidOf : α → String) (guid : String) (records : List α) : Option α :=
  (records.filter (guidOf · == guid)).getLast?

private theorem lastWith?_eq_some_iff :
    lastWith? guidOf guid records = some record ↔ LastWith guidOf guid records record := by
  rw [lastWith?, List.getLast?_filter, List.find?_eq_some_iff_append]
  constructor
  · rintro ⟨hguid, behind, before, hsplit, hb⟩
    refine ⟨before.reverse, behind.reverse, ?_, by simpa using hguid, by simpa using hb⟩
    simpa using congrArg List.reverse hsplit
  · rintro ⟨before, behind, rfl, hguid, hb⟩
    exact ⟨by simpa using hguid, behind.reverse, before.reverse, by simp, by simpa using hb⟩

private theorem lastWith?_eq_none_iff :
    lastWith? guidOf guid records = none ↔ ∀ record ∈ records, guidOf record ≠ guid := by
  simp [lastWith?]

private theorem lastWith?_cons (record : α) (records : List α) :
    lastWith? guidOf guid (record :: records) = (lastWith? guidOf guid records).or
      (if guidOf record = guid then some record else none) := by
  unfold lastWith?
  by_cases h : guidOf record = guid
  · simp [h, List.getLast?_cons]
  · simp [h]

/-- In a map that the records are put into one by one, the last one of a guid stays. -/
theorem getElem?_foldl_insert (records : List α) (known : Std.HashMap String α) :
    (records.foldl (fun known r => known.insert (guidOf r) r) known)[guid]? =
      (lastWith? guidOf guid records).or known[guid]? := by
  induction records generalizing known with
  | nil => rfl
  | cons record records ih =>
    rw [List.foldl_cons, ih, Std.HashMap.getElem?_insert, lastWith?_cons]
    by_cases h : guidOf record = guid
    · simp [h]
    · simp [h]

private theorem LastWith.mem (h : LastWith guidOf guid records record) : record ∈ records := by
  obtain ⟨before, behind, rfl, -, -⟩ := h
  simp

private theorem length_filter_le_one (hn : (records.map guidOf).Nodup) (guid : String) :
    (records.filter (guidOf · == guid)).length ≤ 1 := by
  have hcount := List.nodup_iff_count_le_one.mp hn guid
  rw [List.count_eq_countP, List.countP_map, List.countP_eq_length_filter] at hcount
  exact hcount

private theorem lastWith?_perm (hn : (records.map guidOf).Nodup) (hp : records.Perm others)
    (guid : String) : lastWith? guidOf guid others = lastWith? guidOf guid records := by
  have hfilter := hp.filter (guidOf · == guid)
  have hlength := length_filter_le_one hn guid
  unfold lastWith?
  match hr : records.filter (guidOf · == guid), hlength with
  | [], _ => rw [hr, List.nil_perm] at hfilter; rw [hfilter]
  | [record], _ => rw [hr, List.singleton_perm] at hfilter; rw [hfilter]

private theorem lastWith_of_mem (hn : (records.map guidOf).Nodup) (hm : record ∈ records) :
    LastWith guidOf (guidOf record) records record := by
  obtain ⟨before, behind, rfl⟩ := List.append_of_mem hm
  refine ⟨before, behind, rfl, rfl, fun other ho heq => ?_⟩
  rw [List.map_append, List.map_cons] at hn
  have hnot := (List.nodup_cons.mp hn.of_append_right).1
  exact hnot (heq ▸ List.mem_map_of_mem ho)

private theorem lastWith?_gains {P : α → Prop} {more : List α} (h : Gains P records more)
    (hp : ∀ record, P record → guidOf record ≠ guid) :
    lastWith? guidOf guid more = lastWith? guidOf guid records := by
  induction h with
  | nil => rfl
  | keep record _ ih => rw [lastWith?_cons, lastWith?_cons, ih]
  | add hrecord _ ih => rw [lastWith?_cons, if_neg (hp _ hrecord), Option.or_none, ih]

end Lists

namespace Directory

open Listing

variable {spaces others : List Space} {organizations listed : List Organization}
  {apps : List Application} {app : Application} {space : Space} {guid : String}

/-! ## What the lists say -/

/-- The name that stands for the organization of a space: the one that the space holds, or else the
one of the last organization with its guid, as far as they are not empty, or else the guid. -/
inductive OwnerOf (organizations : List Organization) (space : Space) : String → Prop
  | held {organization : Organization} (h : space.organization = some organization)
    (hn : organization.name ≠ "") : OwnerOf organizations space organization.name
  | listed {organization : Organization} (hs : ¬ NamesOwner space)
    (h : LastWith (·.guid) space.organizationGuid organizations organization)
    (hn : organization.name ≠ "") : OwnerOf organizations space organization.name
  | unnamed (hs : ¬ NamesOwner space)
    (h : ∀ organization, LastWith (·.guid) space.organizationGuid organizations organization →
      organization.name = "") : OwnerOf organizations space space.organizationGuid

/-- The row of an application: the last space with its guid and the owner of that, or the bare guid.
-/
inductive RowOf (spaces : List Space) (organizations : List Organization) (app : Application) :
    Row → Prop
  | unresolved (h : ∀ space ∈ spaces, space.guid ≠ app.spaceGuid) :
    RowOf spaces organizations app ⟨app.name, app.spaceGuid, ""⟩
  | resolved {space : Space} {owner : String} (h : LastWith (·.guid) app.spaceGuid spaces space)
    (ho : OwnerOf organizations space owner) :
    RowOf spaces organizations app ⟨app.name, space.name, owner⟩

/-- For the row of an application an organization is looked up by this guid. -/
def Asks (spaces : List Space) (app : Application) (guid : String) : Prop :=
  ∃ space, LastWith (·.guid) app.spaceGuid spaces space ∧ ¬ NamesOwner space ∧
    space.organizationGuid = guid

/-! ## What the directory says -/

private theorem getElem?_spaces (spaces : List Space) (organizations : List Organization)
    (guid : String) :
    (ofLists spaces organizations).spaces[guid]? = lastWith? (·.guid) guid spaces := by
  rw [ofLists, getElem?_foldl_insert]
  simp

private theorem listedName?_ofLists (spaces : List Space) (organizations : List Organization)
    (guid : String) : (ofLists spaces organizations).listedName? guid =
      ((lastWith? (·.guid) guid organizations).map (·.name)).filter (· ≠ "") := by
  rw [listedName?, ofLists, getElem?_foldl_insert]
  simp

private theorem ownerName?_of_not_names (h : ¬ NamesOwner space) : space.ownerName? = none :=
  Option.isNone_iff_eq_none.mp (isNone_ownerName?_iff.mpr h)

private theorem ownerOf_eq_of_ownerOf {owner : String} (h : OwnerOf organizations space owner)
    (spaces : List Space) : (ofLists spaces organizations).ownerOf space = owner := by
  cases h with
  | held h hn => simp [ownerOf, Space.ownerName?, Option.filter, h, hn]
  | listed hs h hn =>
    have hlast := lastWith?_eq_some_iff.mpr h
    simp [ownerOf, ownerName?_of_not_names hs, listedName?_ofLists, Option.filter, hlast, hn]
  | unnamed hs h =>
    rw [ownerOf, ownerName?_of_not_names hs, listedName?_ofLists]
    cases hlast : lastWith? (·.guid) space.organizationGuid organizations with
    | none => simp
    | some organization => simp [Option.filter, h organization (lastWith?_eq_some_iff.mp hlast)]

private theorem exists_ownerOf (organizations : List Organization) (space : Space) :
    ∃ owner, OwnerOf organizations space owner := by
  by_cases hs : NamesOwner space
  · obtain ⟨organization, h, hn⟩ := hs
    exact ⟨_, .held h hn⟩
  · by_cases hl : ∃ organization,
        LastWith (·.guid) space.organizationGuid organizations organization ∧ organization.name ≠ ""
    · obtain ⟨organization, h, hn⟩ := hl
      exact ⟨_, .listed hs h hn⟩
    · refine ⟨_, .unnamed hs fun organization h => ?_⟩
      by_contra hn
      exact hl ⟨organization, h, hn⟩

private theorem row_eq_of_rowOf {row : Row} (h : RowOf spaces organizations app row) :
    (ofLists spaces organizations).row app = row := by
  cases h with
  | unresolved h =>
    have hlast := lastWith?_eq_none_iff.mpr h
    simp [Directory.row, getElem?_spaces, hlast]
  | resolved h ho =>
    have hlast := lastWith?_eq_some_iff.mpr h
    simp [Directory.row, getElem?_spaces, hlast, ownerOf_eq_of_ownerOf ho]

private theorem exists_rowOf (spaces : List Space) (organizations : List Organization)
    (app : Application) : ∃ row, RowOf spaces organizations app row := by
  cases hlast : lastWith? (·.guid) app.spaceGuid spaces with
  | none => exact ⟨_, .unresolved (lastWith?_eq_none_iff.mp hlast)⟩
  | some space =>
    obtain ⟨owner, ho⟩ := exists_ownerOf organizations space
    exact ⟨_, .resolved (lastWith?_eq_some_iff.mp hlast) ho⟩

private theorem row_eq_iff {row : Row} :
    (ofLists spaces organizations).row app = row ↔ RowOf spaces organizations app row := by
  constructor
  · rintro rfl
    obtain ⟨row, h⟩ := exists_rowOf spaces organizations app
    rwa [row_eq_of_rowOf h]
  · exact row_eq_of_rowOf

private theorem rows_eq_iff {rows : List Row} : (ofLists spaces organizations).rows apps = rows ↔
    List.Forall₂ (RowOf spaces organizations) apps rows := by
  rw [Directory.rows]
  induction apps generalizing rows with
  | nil => simp [eq_comm]
  | cons app apps ih =>
    simp only [List.map_cons, List.forall₂_cons_left_iff, ← ih, ← row_eq_iff]
    simp [eq_comm]

/-! ## What does not matter -/

/-- Rows depend only on the spaces of the applications, and on the organizations that are looked up
for them. -/
theorem rows_congr
    (hs : ∀ app ∈ apps, lastWith? (·.guid) app.spaceGuid others =
      lastWith? (·.guid) app.spaceGuid spaces)
    (ho : ∀ app ∈ apps, ∀ guid, Asks spaces app guid →
      lastWith? (·.guid) guid listed = lastWith? (·.guid) guid organizations) :
    (ofLists others listed).rows apps = (ofLists spaces organizations).rows apps := by
  rw [Directory.rows, Directory.rows, List.map_inj_left]
  intro app happ
  rw [Directory.row, Directory.row, getElem?_spaces, getElem?_spaces, hs app happ]
  cases hlast : lastWith? (·.guid) app.spaceGuid spaces with
  | none => rfl
  | some space =>
    have hspace := lastWith?_eq_some_iff.mp hlast
    suffices (ofLists others listed).ownerOf space = (ofLists spaces organizations).ownerOf space by
      simp [this]
    by_cases hn : NamesOwner space
    · obtain ⟨organization, h, hname⟩ := hn
      have hheld (listed : List Organization) : OwnerOf listed space organization.name :=
        .held h hname
      rw [ownerOf_eq_of_ownerOf (hheld listed), ownerOf_eq_of_ownerOf (hheld organizations)]
    · have hasked := ho app happ space.organizationGuid ⟨space, hspace, hn, rfl⟩
      rw [ownerOf, ownerOf, listedName?_ofLists, listedName?_ofLists, hasked]

/-- When every space names its organization, the listed organizations leave no trace in any row.
When a space does not and each guid stands once, they do. -/
theorem organizations_matter (spaces : List Space) :
    (needsOrganizations spaces = false → ∀ apps organizations listed,
      (ofLists spaces organizations).rows apps = (ofLists spaces listed).rows apps) ∧
    (needsOrganizations spaces = true → (spaces.map (·.guid)).Nodup →
      ∃ app organizations listed,
        (ofLists spaces organizations).rows [app] ≠ (ofLists spaces listed).rows [app]) := by
  constructor
  · intro hneeds apps organizations listed
    refine rows_congr (fun _ _ => rfl) fun app _ guid hasks => ?_
    obtain ⟨space, hlast, hn, -⟩ := hasks
    have htrue := needsOrganizations_iff.mpr ⟨space, hlast.mem, hn⟩
    simp [hneeds] at htrue
  · intro hneeds hdistinct
    obtain ⟨space, hmem, hn⟩ := needsOrganizations_iff.mp hneeds
    have hlast : LastWith (·.guid) space.guid spaces space := lastWith_of_mem hdistinct hmem
    -- a name that is neither empty nor the guid, which is shown when no name is known
    let organization : Organization := ⟨space.organizationGuid, space.organizationGuid ++ "'"⟩
    let app : Application := ⟨"", "", space.guid, false⟩
    have hbare : RowOf spaces [] app ⟨"", space.name, space.organizationGuid⟩ :=
      .resolved hlast (.unnamed hn fun _ h => (List.not_mem_nil h.mem).elim)
    have hnamed : RowOf spaces [organization] app ⟨"", space.name, organization.name⟩ := by
      refine .resolved hlast (.listed hn ?_ (by simp [organization]))
      exact ⟨[], [], rfl, rfl, List.forall_mem_nil _⟩
    have hother : space.organizationGuid ≠ organization.name := fun heq => by
      simpa [organization] using congrArg String.length heq
    refine ⟨app, [], [organization], ?_⟩
    simp [Directory.rows, row_eq_iff.mpr hbare, row_eq_iff.mpr hnamed, hother]

/-- A space that names its organization, and one whose organization has an empty name. -/
theorem organizations_matter_unnamed :
    let named : Space := ⟨"s", "dev", "o", some ⟨"o", "platform"⟩⟩
    let unnamed : Space := ⟨"t", "prod", "p", some ⟨"p", ""⟩⟩
    needsOrganizations [named] = false ∧ needsOrganizations [named, unnamed] = true ∧
      ([named, unnamed].map (·.guid)).Nodup ∧
      (∀ apps organizations listed,
        (ofLists [named] organizations).rows apps = (ofLists [named] listed).rows apps) ∧
      ∃ app organizations listed, (ofLists [named, unnamed] organizations).rows [app] ≠
        (ofLists [named, unnamed] listed).rows [app] := by
  intro named unnamed
  have hnamed : needsOrganizations [named] = false := by decide
  have hunnamed : needsOrganizations [named, unnamed] = true := by decide
  have hdistinct : ([named, unnamed].map (·.guid)).Nodup := by decide
  exact ⟨hnamed, hunnamed, hdistinct, (organizations_matter [named]).1 hnamed,
    (organizations_matter [named, unnamed]).2 hunnamed hdistinct⟩

/-- The rows of a directory are those that the lists tell, one for each application in their order.
They stay the same when records whose guids stand once come in another order, and when records are
added that no row asks for. -/
theorem rows_told_by_lists (spaces : List Space) (organizations : List Organization)
    (apps : List Application) :
    (∀ rows, (ofLists spaces organizations).rows apps = rows ↔
      List.Forall₂ (RowOf spaces organizations) apps rows) ∧
    (∀ others listed, (spaces.map (·.guid)).Nodup → (organizations.map (·.guid)).Nodup →
      spaces.Perm others → organizations.Perm listed →
      (ofLists others listed).rows apps = (ofLists spaces organizations).rows apps) ∧
    ∀ others listed, Gains (fun space => ∀ app ∈ apps, space.guid ≠ app.spaceGuid) spaces others →
      Gains (fun organization => ∀ app ∈ apps, ¬ Asks spaces app organization.guid)
        organizations listed →
      (ofLists others listed).rows apps = (ofLists spaces organizations).rows apps := by
  refine ⟨fun rows => rows_eq_iff, ?_, ?_⟩
  · intro others listed hspaces horganizations hs ho
    apply rows_congr
    · intro app _
      exact lastWith?_perm hspaces hs app.spaceGuid
    · intro app _ guid _
      exact lastWith?_perm horganizations ho guid
  · intro others listed hs ho
    apply rows_congr
    · intro app happ
      exact lastWith?_gains hs fun space hspace => hspace app happ
    · intro app happ guid hasks
      apply lastWith?_gains ho
      rintro organization hunasked rfl
      exact hunasked app happ hasks

/-- Two spaces the other way round, and two with a space and an organization that nobody asks for.
-/
theorem rows_told_by_lists_around :
    let dev : Space := ⟨"s", "dev", "o", none⟩
    let prod : Space := ⟨"t", "prod", "p", some ⟨"p", ""⟩⟩
    let platform : Organization := ⟨"o", "platform"⟩
    let apps : List Application := [⟨"a", "web", "s", true⟩, ⟨"b", "api", "gone", false⟩]
    (ofLists [dev, prod] [platform]).rows apps = [⟨"web", "dev", "platform"⟩, ⟨"api", "gone", ""⟩] ∧
      ([dev, prod].map (·.guid)).Nodup ∧ [dev, prod].Perm [prod, dev] ∧
      (ofLists [prod, dev] [platform]).rows apps = (ofLists [dev, prod] [platform]).rows apps ∧
      Gains (fun space => ∀ app ∈ apps, space.guid ≠ app.spaceGuid) [dev, prod]
        [dev, ⟨"u", "test", "o", none⟩, prod] ∧
      Gains (fun organization => ∀ app ∈ apps, ¬ Asks [dev, prod] app organization.guid) [platform]
        [platform, ⟨"q", "other"⟩] ∧
      (ofLists [dev, ⟨"u", "test", "o", none⟩, prod] [platform, ⟨"q", "other"⟩]).rows apps =
        (ofLists [dev, prod] [platform]).rows apps := by
  intro dev prod platform apps
  obtain ⟨htold, hperm, hgains⟩ := rows_told_by_lists [dev, prod] [platform] apps
  have hweb : RowOf [dev, prod] [platform] ⟨"a", "web", "s", true⟩ ⟨"web", "dev", "platform"⟩ := by
    refine .resolved ⟨[], [prod], rfl, rfl, by decide⟩ (.listed ?_ ⟨[], [], rfl, rfl, ?_⟩ ?_)
    · rintro ⟨_, h, -⟩
      cases h
    · exact List.forall_mem_nil _
    · decide
  have hapi : RowOf [dev, prod] [platform] ⟨"b", "api", "gone", false⟩ ⟨"api", "gone", ""⟩ :=
    .unresolved (by decide)
  have hdistinct : ([dev, prod].map (·.guid)).Nodup := by decide
  have hswap : [dev, prod].Perm [prod, dev] := .swap prod dev []
  have hspaces : Gains (fun space => ∀ app ∈ apps, space.guid ≠ app.spaceGuid) [dev, prod]
      [dev, ⟨"u", "test", "o", none⟩, prod] := .keep _ (.add (by decide) (.keep _ .nil))
  have hlisted : Gains (fun organization => ∀ app ∈ apps, ¬ Asks [dev, prod] app organization.guid)
      [platform] [platform, ⟨"q", "other"⟩] := by
    refine .keep _ (.add ?_ .nil)
    rintro app - ⟨space, hlast, -, hguid⟩
    have hmem := hlast.mem
    simp only [List.mem_cons, List.not_mem_nil, or_false] at hmem
    rcases hmem with rfl | rfl
    · exact absurd hguid (by decide)
    · exact absurd hguid (by decide)
  exact ⟨(htold _).mpr (.cons hweb (.cons hapi .nil)), hdistinct, hswap,
    hperm _ _ hdistinct (by decide) hswap (.refl _), hspaces, hlisted, hgains _ _ hspaces hlisted⟩

/-- Of two spaces with one guid the last one counts. -/
example : (ofLists [⟨"s", "old", "o", none⟩, ⟨"s", "new", "p", none⟩] []).rows
    [⟨"a", "web", "s", true⟩] = [⟨"web", "new", "p"⟩] := by
  cbv

end Directory

end RuntimeFlag
