import RuntimeFlag.Proofs.Confinement
import RuntimeFlag.Proofs.Url.Front
/-!
# Guids in the paths of requests

A guid is put into the path of a request as it is. The request is about the resource with this guid
exactly when the guid is one segment; behind the path of an application, where nothing follows the
guid, it must not end in a blank or a control either.
-/
namespace RuntimeFlag

/-- One segment of the path stands for a name; the others are given words. -/
def Url.Names (url : Url) (front : List String) (name : String) (back : List String) : Prop :=
  ∃ part, url.path = .segments (front.map String.toList ++ part :: back.map String.toList) ∧
    Percent.decode part = Utf8.encode name

/-- The URL is about the resource with a name, and about nothing else. -/
structure Url.Addresses (url : Url) (front : List String) (name : String) (back : List String)
    (query : Option (List Char)) : Prop where
  path : url.Names front name back
  query : url.query = query
  fragment : url.fragment = none

/-- The text does not end in a blank or a control. -/
def Text.EndsVisibly (cs : List Char) : Prop := ∀ c ∈ cs.getLast?, 0x20 < c.toNat

namespace Text

private theorem dropTailWhile_eq_self_iff (cs : List Char) :
    dropTailWhile (·.toNat ≤ 0x20) cs = cs ↔ EndsVisibly cs := by
  have hself := List.rdropWhile_eq_self_iff (p := fun c : Char => c.toNat ≤ 0x20) (l := cs)
  refine hself.trans ⟨fun h c hc => ?_, fun h hne => ?_⟩
  · obtain ⟨hne, rfl⟩ := List.mem_getLast?_eq_getLast hc
    simpa using h hne
  · simpa using h _ (List.getLast?_eq_getLast_of_ne_nil hne)

private theorem dropTailWhile_sublist (cs : List Char) :
    (dropTailWhile (·.toNat ≤ 0x20) cs).Sublist cs :=
  (List.rdropWhile_prefix (fun c : Char => decide (c.toNat ≤ 0x20)) (l := cs)).sublist

end Text

namespace Path

private theorem isWord_v2 : ∀ c ∈ "v2".toList, isWord c = true := List.all_eq_true.mp (by decide)

private theorem isWord_apps : ∀ c ∈ "apps".toList, isWord c = true :=
  List.all_eq_true.mp (by decide)

private theorem isWord_spaces : ∀ c ∈ "spaces".toList, isWord c = true :=
  List.all_eq_true.mp (by decide)

end Path

namespace Url

variable {base : Url} {port : Nat}

/-! ## Paths with a spliced text -/

private theorem splitPath_eq (cs : List Char) :
    splitPath cs = (cs.takeWhile (!isPathEnd ·), cs.dropWhile (!isPathEnd ·)) :=
  List.span_eq_takeWhile_dropWhile _ cs

/-- What is read of a text behind a slash: its characters that count, up to a blank end. -/
def spliced (cs : List Char) : List Char :=
  Path.counted (Text.dropTailWhile (·.toNat ≤ 0x20) cs)

private theorem join_spliced (hb : base.IsEndpoint) (hk : base.kind = .special port) {word : String}
    (hw : ∀ c ∈ word.toList, Path.isWord c = true) (cs : List Char) :
    base.join ("/v2/" ++ word ++ "/" ++ String.ofList cs) =
      .ok (withTail
        { base with
          path := .segments (Path.pushAll (.special port) []
            ("v2".toList :: word.toList ::
              Path.split (.special port) (splitPath (spliced cs)).1)).reverse
          query := none
          fragment := none }
        (Path.counted (splitPath (spliced cs)).2)) := by
  have hsegment := Path.isSegment_of_words hw
  -- what stands before the text, without the first slash
  obtain ⟨front, hfront⟩ : ∃ front, front = '2' :: '/' :: (word.toList ++ ['/']) := ⟨_, rfl⟩
  have hmem {c : Char} (hc : c ∈ front) : c = '2' ∨ c = '/' ∨ c ∈ word.toList := by
    simpa [hfront, or_comm, or_assoc, or_left_comm] using hc
  have hvisible : ∀ c ∈ front, 0x20 < c.toNat := by
    intro c hc
    rcases hmem hc with rfl | rfl | hc
    · decide
    · decide
    · exact Path.lt_of_isWord (hw c hc)
  have hopen : ∀ c ∈ 'v' :: front, (!isPathEnd c) = true := by
    intro c hc
    rcases List.mem_cons.mp hc with rfl | hc
    · rfl
    · rcases hmem hc with rfl | rfl | hc
      · rfl
      · rfl
      · rw [hsegment.isPathEnd hc]
        rfl
  have htext : ("/v2/" ++ word ++ "/" ++ String.ofList cs).toList = '/' :: 'v' :: (front ++ cs) := by
    simp [hfront, String.toList_append]
  have hread : Path.counted (Text.dropTailWhile (·.toNat ≤ 0x20) (front ++ cs)) =
      front ++ spliced cs := by
    rw [Text.dropTailWhile_append hvisible, spliced, Path.counted, List.filter_append,
      ← Path.counted, Path.counted_of_lt hvisible]
    rfl
  have hsplit : Path.split (.special port) (('v' :: front) ++ (splitPath (spliced cs)).1) =
      "v2".toList :: word.toList :: Path.split (.special port) (splitPath (spliced cs)).1 := by
    have hparts : ('v' :: front) ++ (splitPath (spliced cs)).1 =
        "v2".toList ++ '/' :: (word.toList ++ '/' :: (splitPath (spliced cs)).1) := by
      simp [hfront]
    rw [hparts, Path.split_append, Path.split_append,
      Path.split_segment fun c hc => hsegment.isSlash hc]
    rfl
  rw [join_slash hb.rooted hk htext (by decide) (by decide), hread, withPath, ← List.cons_append,
    splitPath_eq, List.takeWhile_append_of_pos hopen, List.dropWhile_append_of_pos hopen]
  dsimp only
  rw [hk]
  simp only [splitPath_eq] at hsplit
  simp only [follow, Path.follow, hsplit, splitPath_eq, List.reverse_nil]

private theorem exists_join (hb : base.IsEndpoint) (hk : base.kind = .special port) {word : String}
    (hw : ∀ c ∈ word.toList, Path.isWord c = true) (cs : List Char) :
    ∃ url, base.join ("/v2/" ++ word ++ "/" ++ String.ofList cs) = .ok url ∧
      url.path = .segments (Path.pushAll (.special port) []
        ("v2".toList :: word.toList ::
          Path.split (.special port) (splitPath (spliced cs)).1)).reverse :=
  ⟨_, join_spliced hb hk hw cs, (withTail_keeps _ _).2⟩

/-- A part of the path of a web URL that stands for a text, where the text was put among words. -/
theorem isSegment_of_mem_pushAll {segments : List (List Char)} {cs part : List Char}
    (hm : part ∈ Path.pushAll (.special port) [] segments)
    (hd : Percent.decode part = Utf8.encodeChars cs)
    (hs : ∀ s ∈ segments, (∀ c ∈ s, Path.isWord c = true) ∨
      s.Sublist cs ∧ (∀ c ∈ s, Path.isSlash (.special port) c = false) ∧
        ∀ c ∈ s, isPathEnd c = false) :
    Path.IsSegment cs ∧ ((∀ c ∈ cs, Path.isWord c = true) ∨ cs ∈ segments) := by
  rcases Path.mem_pushAll hm with hm | rfl | ⟨s, hmem, rfl, hdot, hdouble⟩
  · cases hm
  · have hnil : cs = [] := Utf8.encodeChars_injective hd.symm
    subst hnil
    have hword : ∀ c ∈ ([] : List Char), Path.isWord c = true := fun c hc => nomatch hc
    exact ⟨Path.isSegment_of_words hword, .inl hword⟩
  · rcases hs s hmem with hword | ⟨hsub, hslash, hend⟩
    · have hsegment := Path.isSegment_of_words hword
      rw [hsegment.counted, (Percent.decode_encode_iff s).mpr hsegment.bytes] at hd
      obtain rfl := Utf8.encodeChars_injective hd
      exact ⟨hsegment, .inl hword⟩
    · obtain ⟨hsegment, rfl⟩ := Path.isSegment_of_decode hsub hslash hend hdot hdouble hd
      exact ⟨hsegment, .inr hmem⟩

private theorem spliced_sublist (cs : List Char) :
    (spliced cs).Sublist (Text.dropTailWhile (·.toNat ≤ 0x20) cs) :=
  List.filter_sublist

private theorem splitPath_sublist (cs : List Char) : (splitPath cs).1.Sublist cs := by
  rw [splitPath_eq]
  exact List.takeWhile_sublist _

private theorem isPathEnd_of_mem_splitPath {cs : List Char} {c : Char} (h : c ∈ (splitPath cs).1) :
    isPathEnd c = false := by
  rw [splitPath_eq] at h
  simpa using List.mem_takeWhile_imp h

private theorem splitPath_of_open {cs : List Char} (h : ∀ c ∈ cs, isPathEnd c = false) :
    splitPath cs = (cs, []) := by
  have hopen : ∀ c ∈ cs, (!isPathEnd c) = true := fun c hc => by rw [h c hc]; rfl
  rw [splitPath_eq, List.takeWhile_eq_self_iff.mpr hopen, List.dropWhile_eq_nil_iff.mpr hopen]

private theorem join_segments (hb : base.IsEndpoint) (hk : base.kind = .special port)
    {word : String} (hw : ∀ c ∈ word.toList, Path.isWord c = true)
    (he : Percent.encode Percent.inPath word.toList = word.toList) {cs : List Char}
    (hspliced : spliced cs = cs) (hopen : ∀ c ∈ cs, isPathEnd c = false)
    (hs : ∀ s ∈ Path.split (.special port) cs, Path.IsSegment s) :
    base.join ("/v2/" ++ word ++ "/" ++ String.ofList cs) =
      .ok { base with
        path := .segments ("v2".toList :: word.toList ::
          (Path.split (.special port) cs).map (Percent.encode Percent.inPath))
        query := none
        fragment := none } := by
  have hall : ∀ s ∈ "v2".toList :: word.toList :: Path.split (.special port) cs,
      Path.IsSegment s := by
    intro s hmem
    rcases List.mem_cons.mp hmem with rfl | hmem
    · exact Path.isSegment_of_words Path.isWord_v2
    · rcases List.mem_cons.mp hmem with rfl | hmem
      · exact Path.isSegment_of_words hw
      · exact hs s hmem
  rw [join_spliced hb hk hw, hspliced, splitPath_of_open hopen, Path.pushAll_segments hall,
    List.append_nil, List.reverse_reverse, List.map_cons, List.map_cons, he]
  rfl

private theorem isSegment_of_names {url : Url} {front back : List String} {name : String}
    {segments : List (List Char)} (h : url.Names front name back)
    (hpath : url.path = .segments (Path.pushAll (.special port) [] segments).reverse)
    (hs : ∀ s ∈ segments, (∀ c ∈ s, Path.isWord c = true) ∨
      s.Sublist name.toList ∧ (∀ c ∈ s, Path.isSlash (.special port) c = false) ∧
        ∀ c ∈ s, isPathEnd c = false) :
    Path.IsSegment name.toList ∧
      ((∀ c ∈ name.toList, Path.isWord c = true) ∨ name.toList ∈ segments) := by
  obtain ⟨part, hparts, hdecode⟩ := h
  have hm : part ∈ (Path.pushAll (.special port) [] segments).reverse := by
    rw [UrlPath.segments.inj (hpath.symm.trans hparts)]
    simp
  exact isSegment_of_mem_pushAll (List.mem_reverse.mp hm) hdecode hs

/-- The path of an application is about this application exactly when its guid is one segment that
does not end in a blank or a control. -/
theorem join_app (hb : base.IsEndpoint) (guid : String) :
    ∃ url, base.join ("/v2/apps/" ++ guid) = .ok url ∧
      (url.Addresses ["v2", "apps"] guid [] none ↔
        Path.IsSegment guid.toList ∧ Text.EndsVisibly guid.toList) := by
  obtain ⟨port, hk⟩ := kind_of_isWeb hb.web
  have htext : "/v2/" ++ "apps" ++ "/" ++ String.ofList guid.toList = "/v2/apps/" ++ guid := by
    rw [String.ofList_toList]
    rfl
  obtain ⟨url, hjoin, hpath⟩ := exists_join hb hk Path.isWord_apps guid.toList
  rw [htext] at hjoin
  refine ⟨url, hjoin, fun h => ?_, fun ⟨hsegment, hvisible⟩ => ?_⟩
  · have hread : (splitPath (spliced guid.toList)).1.Sublist
        (Text.dropTailWhile (·.toNat ≤ 0x20) guid.toList) :=
      (splitPath_sublist _).trans (spliced_sublist _)
    obtain ⟨hsegment, hguid⟩ := isSegment_of_names h.path hpath (by
      intro s hs
      rcases List.mem_cons.mp hs with rfl | hs
      · exact .inl Path.isWord_v2
      rcases List.mem_cons.mp hs with rfl | hs
      · exact .inl Path.isWord_apps
      obtain ⟨hsub, hslash⟩ := Path.mem_split hs
      exact .inr ⟨(hsub.trans hread).trans (Text.dropTailWhile_sublist _), hslash,
        fun c hc => isPathEnd_of_mem_splitPath (hsub.subset hc)⟩)
    refine ⟨hsegment, ?_⟩
    have hword (hw : ∀ c ∈ guid.toList, Path.isWord c = true) : Text.EndsVisibly guid.toList :=
      fun c hc => Path.lt_of_isWord (hw c (List.mem_of_getLast? hc))
    rcases hguid with hw | hmem
    · exact hword hw
    · rcases List.mem_cons.mp hmem with heq | hmem
      · exact hword (heq ▸ Path.isWord_v2)
      rcases List.mem_cons.mp hmem with heq | hmem
      · exact hword (heq ▸ Path.isWord_apps)
      -- the guid has kept its end, because it is a part of what was left of it
      have hsub := (Path.mem_split hmem).1.trans hread
      exact (Text.dropTailWhile_eq_self_iff _).mp
        ((Text.dropTailWhile_sublist guid.toList).antisymm hsub)
  · have hspliced : spliced guid.toList = guid.toList := by
      rw [spliced, (Text.dropTailWhile_eq_self_iff _).mpr hvisible, hsegment.counted]
    have hsplit : Path.split (.special port) guid.toList = [guid.toList] :=
      Path.split_segment fun c hc => hsegment.isSlash hc
    have hkept := join_segments hb hk Path.isWord_apps rfl hspliced
      (fun c hc => hsegment.isPathEnd hc) (by simpa [hsplit] using hsegment)
    rw [htext, hsplit] at hkept
    obtain rfl := Except.ok.inj (hjoin.symm.trans hkept)
    exact ⟨⟨_, rfl, (Percent.decode_encode_iff _).mpr hsegment.bytes⟩, rfl, rfl⟩

private theorem spliced_append_apps (guid : List Char) :
    spliced (guid ++ "/apps".toList) = Path.counted guid ++ "/apps".toList := by
  have hvisible : Text.EndsVisibly (guid ++ "/apps".toList) := by
    intro c hc
    rw [List.getLast?_append_of_ne_nil _ (by decide)] at hc
    cases hc
    decide
  rw [spliced, (Text.dropTailWhile_eq_self_iff _).mpr hvisible, Path.counted, List.filter_append]
  rfl

private theorem isPathEnd_of_mem_append_apps {guid : List Char}
    (h : ∀ c ∈ guid, isPathEnd c = false) :
    ∀ c ∈ guid ++ "/apps".toList, isPathEnd c = false := by
  have happs : ∀ c ∈ "/apps".toList, isPathEnd c = false := by
    intro c hc
    rcases List.mem_cons.mp hc with rfl | hc
    · rfl
    · exact (Path.isSegment_of_words Path.isWord_apps).isPathEnd hc
  intro c hc
  exact (List.mem_append.mp hc).elim (h c) (happs c)

private theorem split_spliced_append_apps {guid s : List Char}
    (h : s ∈ Path.split (.special port) (splitPath (spliced (guid ++ "/apps".toList))).1) :
    (∀ c ∈ s, Path.isWord c = true) ∨
      s.Sublist guid ∧ (∀ c ∈ s, Path.isSlash (.special port) c = false) ∧
        ∀ c ∈ s, isPathEnd c = false := by
  have hguid : (Path.counted guid).Sublist guid := List.filter_sublist
  rw [spliced_append_apps] at h
  by_cases hopen : ∀ c ∈ Path.counted guid, isPathEnd c = false
  · have hsplit : Path.split (.special port) (Path.counted guid ++ "/apps".toList) =
        Path.split (.special port) (Path.counted guid) ++ ["apps".toList] :=
      Path.split_append _ _
    rw [splitPath_of_open (isPathEnd_of_mem_append_apps hopen), hsplit, List.mem_append] at h
    rcases h with h | h
    · obtain ⟨hsub, hslash⟩ := Path.mem_split h
      exact .inr ⟨hsub.trans hguid, hslash, fun c hc => hopen c (hsub.subset hc)⟩
    · rw [List.mem_singleton] at h
      subst h
      exact .inl Path.isWord_apps
  · -- the path ends inside the guid
    have hcut : (splitPath (Path.counted guid ++ "/apps".toList)).1 =
        (splitPath (Path.counted guid)).1 := by
      rw [splitPath_eq, splitPath_eq, List.takeWhile_append, if_neg]
      intro hlength
      have hall := List.takeWhile_eq_self_iff.mp
        ((List.takeWhile_sublist _).eq_of_length hlength)
      exact hopen fun c hc => by simpa using hall c hc
    rw [hcut] at h
    obtain ⟨hsub, hslash⟩ := Path.mem_split h
    exact .inr ⟨(hsub.trans (splitPath_sublist _)).trans hguid, hslash,
      fun c hc => isPathEnd_of_mem_splitPath (hsub.subset hc)⟩

/-- The path of the applications of a space is about this space exactly when its guid is one
segment. -/
theorem join_space (hb : base.IsEndpoint) (guid : String) :
    ∃ url, base.join ("/v2/spaces/" ++ guid ++ "/apps") = .ok url ∧
      (url.Names ["v2", "spaces"] guid ["apps"] → Path.IsSegment guid.toList) ∧
      (Path.IsSegment guid.toList → url.Addresses ["v2", "spaces"] guid ["apps"] none) := by
  obtain ⟨port, hk⟩ := kind_of_isWeb hb.web
  have htext : "/v2/" ++ "spaces" ++ "/" ++ String.ofList (guid.toList ++ "/apps".toList) =
      "/v2/spaces/" ++ guid ++ "/apps" := by
    rw [String.ofList_append, String.ofList_toList, String.ofList_toList, ← String.append_assoc]
    rfl
  obtain ⟨url, hjoin, hpath⟩ := exists_join hb hk Path.isWord_spaces
    (guid.toList ++ "/apps".toList)
  rw [htext] at hjoin
  refine ⟨url, hjoin, fun h => ?_, fun hsegment => ?_⟩
  · refine (isSegment_of_names h hpath ?_).1
    intro s hs
    rcases List.mem_cons.mp hs with rfl | hs
    · exact .inl Path.isWord_v2
    rcases List.mem_cons.mp hs with rfl | hs
    · exact .inl Path.isWord_spaces
    exact split_spliced_append_apps hs
  · have hlast : Path.IsSegment "apps".toList := Path.isSegment_of_words Path.isWord_apps
    have hspliced : spliced (guid.toList ++ "/apps".toList) = guid.toList ++ "/apps".toList := by
      rw [spliced_append_apps, hsegment.counted]
    have hsplit : Path.split (.special port) (guid.toList ++ "/apps".toList) =
        [guid.toList, "apps".toList] := by
      rw [show "/apps".toList = '/' :: "apps".toList from rfl, Path.split_append,
        Path.split_segment fun c hc => hsegment.isSlash hc]
      rfl
    have hkept := join_segments hb hk Path.isWord_spaces rfl hspliced
      (isPathEnd_of_mem_append_apps fun c hc => hsegment.isPathEnd hc) (by
        rw [hsplit]
        exact List.forall_mem_cons.mpr ⟨hsegment, List.forall_mem_singleton.mpr hlast⟩)
    rw [htext, hsplit] at hkept
    obtain rfl := Except.ok.inj (hjoin.symm.trans hkept)
    exact ⟨⟨_, rfl, (Percent.decode_encode_iff _).mpr hsegment.bytes⟩, rfl, rfl⟩

/-! ## URLs about names -/

private theorem Names.ne_nil {url : Url} {front back : List String} {name : String}
    (h : url.Names front name back) (hn : name ≠ "") :
    ∃ part, part ≠ [] ∧
      url.path = .segments (front.map String.toList ++ part :: back.map String.toList) := by
  obtain ⟨part, hpath, hdecode⟩ := h
  refine ⟨part, ?_, hpath⟩
  rintro rfl
  have hnil : ([] : List Char) = name.toList := Utf8.encodeChars_injective hdecode
  exact hn (String.toList_inj.mp hnil.symm)

private theorem pathChars_of_text {a b : Url} {host : Host} (hs : a.site = b.site)
    (hh : b.host = some host) (hq : a.query = b.query) (hf : a.fragment = b.fragment)
    (h : a.text = b.text) : a.path.chars = b.path.chars := by
  have hrest := restChars_of_text hs hh h
  rw [restChars, restChars, hq, hf] at hrest
  exact List.append_cancel_right (List.append_cancel_right hrest)

/-- URLs on one site that are about different names are written differently. -/
theorem Addresses.injective {a b : Url} {host : Host} {front back : List String}
    {name other : String} {query : Option (List Char)} (ha : a.Addresses front name back query)
    (hb : b.Addresses front other back query) (hs : a.site = b.site) (hh : b.host = some host)
    (h : a.text = b.text) : name = other := by
  have hpath := pathChars_of_text hs hh (ha.query.trans hb.query.symm)
    (ha.fragment.trans hb.fragment.symm) h
  obtain ⟨part, hpart, hname⟩ := ha.path
  obtain ⟨piece, hpiece, hother⟩ := hb.path
  have hparts : part = piece := by
    rw [hpart, hpiece, UrlPath.chars, UrlPath.chars, List.flatMap_append, List.flatMap_append,
      List.flatMap_cons, List.flatMap_cons] at hpath
    exact (List.cons.inj (List.append_cancel_right (List.append_cancel_left hpath))).2
  have hbytes : Utf8.encode name = Utf8.encode other := by rw [← hname, ← hother, hparts]
  exact String.toList_inj.mp (Utf8.encodeChars_injective hbytes)

end Url

/-! ## Requests -/

variable {base : Url}

private theorem flagRequest_addresses (hb : base.IsEndpoint) (guid : String) (enabled : Bool) :
    ∃ put, flagRequest base guid enabled = .ok put ∧ put.url.site = base.site ∧
      (put.url.Addresses ["v2", "apps"] guid [] none ↔
        Path.IsSegment guid.toList ∧ Text.EndsVisibly guid.toList) := by
  obtain ⟨url, hrequest, hsite⟩ := flagRequest_spec hb guid enabled
  obtain ⟨joined, hjoin, hiff⟩ := Url.join_app hb guid
  have hsame : flagRequest base guid enabled = .ok ⟨.setFlag enabled, joined, none⟩ := by
    rw [flagRequest, urlForPath, hjoin]
    rfl
  cases hsame.symm.trans hrequest
  exact ⟨_, hrequest, hsite, hiff⟩

private theorem Query.request_addresses (query : Query) (hb : query.base.IsEndpoint)
    (hc : query.collection = .apps) {guid : String} (hg : query.spaceGuid = some guid) :
    ∃ list, query.request .first = .ok list ∧
      (list.url.Addresses ["v2", "spaces"] guid ["apps"] (Form.append none query.pairs) ↔
        Path.IsSegment guid.toList) := by
  obtain ⟨url, hjoin, honly, hkept⟩ := Url.join_space hb guid
  have hpath : query.path = "/v2/spaces/" ++ guid ++ "/apps" := by rw [path, hc, hg]
  refine ⟨⟨.fetch, url.appendPairs query.pairs, none⟩, ?_, fun h => honly h.path, fun h => ?_⟩
  · rw [request, firstUrl, hpath, urlForPath, hjoin]
    rfl
  · have haddresses := hkept h
    refine ⟨haddresses.path, ?_, haddresses.fragment⟩
    rw [Url.appendPairs, haddresses.query]

/-- The change of a flag is about the application with the guid, and about nothing else, exactly
when the guid is one segment that does not end in a blank or a control; the list of the applications
of a space is about this space exactly when the guid is one segment. Changes of flags that are about
their applications are told apart by their written URLs, and none goes to the collection. -/
theorem requests_about_guid {text : String} (hp : Url.parse text = .ok base) (hw : base.IsWeb)
    (guid : String) (enabled : Bool) (filter : Option Filter) (size : Option Nat) :
    let query : Query := ⟨base, .apps, filter, size, some guid⟩
    ∃ put list, flagRequest base guid enabled = .ok put ∧ query.request .first = .ok list ∧
      (put.url.Addresses ["v2", "apps"] guid [] none ↔
        Path.IsSegment guid.toList ∧ Text.EndsVisibly guid.toList) ∧
      (list.url.Addresses ["v2", "spaces"] guid ["apps"] (Form.append none query.pairs) ↔
        Path.IsSegment guid.toList) ∧
      (put.url.Addresses ["v2", "apps"] guid [] none →
        (guid ≠ "" → put.url.path ≠ .segments ["v2".toList, "apps".toList] ∧
          put.url.path ≠ .segments ["v2".toList, "apps".toList, []]) ∧
        ∀ other value request, flagRequest base other value = .ok request →
          request.url.Addresses ["v2", "apps"] other [] none →
          request.url.text = put.url.text → other = guid) := by
  intro query
  have hb := isEndpoint_of_parse hp hw
  obtain ⟨host, hhost⟩ := hb.rooted.1
  obtain ⟨put, hput, hsite, hiff⟩ := flagRequest_addresses hb guid enabled
  obtain ⟨list, hlist, hscoped⟩ := query.request_addresses hb rfl rfl
  refine ⟨put, list, hput, hlist, hiff, hscoped, fun habout => ⟨fun hne => ?_, ?_⟩⟩
  · obtain ⟨part, hpart, hpath⟩ := habout.path.ne_nil hne
    rw [hpath]
    refine ⟨fun h => ?_, fun h => ?_⟩
    · cases h
    · cases h
      exact hpart rfl
  · intro other value request hrequest hother htext
    obtain ⟨same, hsame, hsites, -⟩ := flagRequest_addresses hb other value
    cases hsame.symm.trans hrequest
    exact hother.injective habout (hsites.trans hsite.symm) ((Url.host_eq_of_site hsite).trans hhost)
      htext

/-- A guid as the control plane makes them: its requests are about it. -/
theorem requests_about_guid_plain :
    Url.parse "https://[::1]:8443/x" = .ok Client.loopback.base ∧ Client.loopback.base.IsWeb ∧
    ∃ put list, flagRequest Client.loopback.base "6a9c-41" true = .ok put ∧
      (Query.mk Client.loopback.base .apps none (some 100) (some "6a9c-41")).request .first =
        .ok list ∧
      put.url.Addresses ["v2", "apps"] "6a9c-41" [] none ∧
      list.url.Addresses ["v2", "spaces"] "6a9c-41" ["apps"]
        (some "results-per-page=100".toList) := by
  have hp : Url.parse "https://[::1]:8443/x" = .ok Client.loopback.base := by decide +kernel
  have hw : Client.loopback.base.IsWeb := by decide +kernel
  have hsegment : Path.IsSegment "6a9c-41".toList :=
    Path.isSegment_of_words (List.all_eq_true.mp (by decide))
  obtain ⟨put, list, hput, hlist, happ, hspace, -⟩ :=
    requests_about_guid hp hw "6a9c-41" true none (some 100)
  have hvisible : Text.EndsVisibly "6a9c-41".toList := by
    intro c hc
    cases hc
    decide
  exact ⟨hp, hw, put, list, hput, hlist, happ.mpr ⟨hsegment, hvisible⟩, hspace.mpr hsegment⟩

/-- Two guids whose changes go to one URL, which is the URL of the collection. -/
theorem flagRequest_collection :
    Url.parse "https://[::1]:8443/x" = .ok Client.loopback.base ∧ Client.loopback.base.IsWeb ∧
    ∃ put, flagRequest Client.loopback.base "../apps" true = .ok put ∧
      flagRequest Client.loopback.base "x/../../apps" true = .ok put ∧
      put.url.path = .segments ["v2".toList, "apps".toList] ∧
      ¬ put.url.Addresses ["v2", "apps"] "../apps" [] none := by
  refine ⟨by decide +kernel, by decide +kernel,
    ⟨.setFlag true,
      { Client.loopback.base with path := .segments ["v2".toList, "apps".toList] }, none⟩,
    by decide +kernel, by decide +kernel, rfl, ?_⟩
  rintro ⟨⟨part, hpath, -⟩, -, -⟩
  cases hpath

end RuntimeFlag
