import Mathlib.Data.List.TakeDrop
import RuntimeFlag.Proofs.Request
import RuntimeFlag.Proofs.Url.Segment
/-!
# Plain paths

A path whose segments are words is joined to the endpoint of a control plane segment by segment, and
each segment is read as the word that was written.
-/
namespace RuntimeFlag

namespace Text

theorem dropTailWhile_append {front : List Char} (h : ∀ c ∈ front, 0x20 < c.toNat)
    (cs : List Char) :
    dropTailWhile (·.toNat ≤ 0x20) (front ++ cs) = front ++ dropTailWhile (·.toNat ≤ 0x20) cs :=
  dropTailWhile_append_of_neg (fun c hc => decide_eq_false (Nat.not_le.mpr (h c hc))) cs

private theorem dropTailWhile_of_lt {cs : List Char} (h : ∀ c ∈ cs, 0x20 < c.toNat) :
    dropTailWhile (·.toNat ≤ 0x20) cs = cs := by
  have happend := dropTailWhile_append h []
  rw [List.append_nil] at happend
  exact happend.trans (List.append_nil cs)

end Text

namespace Path

/-- Letters, digits and hyphens; a character beyond ASCII may be a letter. -/
def isWord (c : Char) : Bool := c.isAlphanum || c = '-' || 0x80 ≤ c.toNat

private theorem isWord_ne {c : Char} (mark : Char) (h : isWord c = true)
    (hm : isWord mark = false) :
    c ≠ mark := by
  rintro rfl
  cases h.symm.trans hm

theorem lt_of_isWord {c : Char} (h : isWord c = true) : 0x20 < c.toNat := by
  have hlow : ∀ n ≤ 0x20, isWord (Char.ofNat n) = false := by decide
  by_cases hc : c.toNat ≤ 0x20
  · have hfalse := hlow c.toNat hc
    rw [Char.ofNat_toNat, h] at hfalse
    cases hfalse
  · omega

private theorem isGap_of_lt {c : Char} (h : 0x20 < c.toNat) : isGap c = false := by
  simp only [isGap, Bool.or_eq_false_iff, decide_eq_false_iff_not]
  refine ⟨⟨?_, ?_⟩, ?_⟩ <;> rintro rfl <;> exact absurd h (by decide)

theorem counted_of_lt {cs : List Char} (h : ∀ c ∈ cs, 0x20 < c.toNat) : counted cs = cs := by
  rw [counted, List.filter_eq_self]
  intro c hc
  rw [isGap_of_lt (h c hc)]
  rfl

/-! ## Segments -/

variable {kind : SchemeKind}

theorem split_segment {segment : List Char} (h : ∀ c ∈ segment, isSlash kind c = false) :
    split kind segment = [segment] := by
  induction segment with
  | nil => rfl
  | cons c cs ih =>
    have htail := ih fun d hd => h d (List.mem_cons_of_mem _ hd)
    rw [split, h c List.mem_cons_self, htail]
    rfl

private theorem split_intercalate {segment : List Char} {segments : List (List Char)}
    (h : ∀ s ∈ segment :: segments, ∀ c ∈ s, isSlash kind c = false) :
    split kind (['/'].intercalate (segment :: segments)) = segment :: segments := by
  induction segments generalizing segment with
  | nil =>
    rw [List.intercalate_singleton]
    exact split_segment (h segment List.mem_cons_self)
  | cons next segments ih =>
    rw [List.intercalate_cons_cons, List.append_assoc, List.singleton_append, split_append,
      split_segment (h segment List.mem_cons_self), ih fun s hs => h s (List.mem_cons_of_mem _ hs)]
    rfl

theorem isSegment_of_words {cs : List Char} (h : ∀ c ∈ cs, isWord c = true) : IsSegment cs where
  marks c hc hm := by
    have hnone : ∀ mark ∈ "/\\?#\t\n\r".toList, (!isWord mark) = true :=
      List.all_eq_true.mp (by decide)
    have hmark := hnone c hm
    rw [h c hc] at hmark
    cases hmark
  dots := by
    constructor <;> rintro rfl <;> cases h '.' List.mem_cons_self
  bytes := Percent.not_hasEscape_of_not_mem fun hm => by cases h '%' hm

end Path

namespace Url

variable {base : Url}

/-- Something that stands behind a path: nothing, or a query after its mark. -/
def queryChars (query : Option (List Char)) : List Char := (query.map ('?' :: ·)).getD []

private theorem lt_of_inSpecialQuery {c : Char} (h : Percent.inSpecialQuery c = false) :
    0x20 < c.toNat := by
  simp only [Percent.inSpecialQuery, Percent.inQuery, Percent.isControl, Bool.or_eq_false_iff,
    decide_eq_false_iff_not] at h
  obtain ⟨⟨⟨hlow, -⟩, hmarks⟩, -⟩ := h
  have hne : c.toNat ≠ 0x20 := by
    intro heq
    rw [← Char.ofNat_toNat c, heq] at hmarks
    revert hmarks
    decide
  omega

private theorem span_append {p : Char → Bool} {cs rest : List Char} (h : ∀ c ∈ cs, p c = true)
    (hr : ∀ c ∈ rest.head?, p c = false) : (cs ++ rest).span p = (cs, rest) := by
  rw [List.span_eq_takeWhile_dropWhile, List.takeWhile_append_of_pos h,
    List.dropWhile_append_of_pos h]
  cases rest with
  | nil => rw [List.takeWhile_nil, List.dropWhile_nil, List.append_nil]
  | cons c rest =>
    have hc : p c = false := hr c rfl
    simp [hc]

theorem splitPath_append {joined : List Char} (h : ∀ c ∈ joined, isPathEnd c = false)
    (query : Option (List Char)) :
    splitPath (joined ++ queryChars query) = (joined, queryChars query) := by
  refine span_append (fun c hc => ?_) (fun c hc => ?_)
  · rw [h c hc]
    rfl
  · cases query with
    | none => cases hc
    | some text =>
      cases hc
      rfl

private theorem withTail_queryChars {url : Url} {port : Nat} (hk : url.kind = .special port)
    {query : Option (List Char)}
    (hq : ∀ text ∈ query, ∀ c ∈ text, Percent.inSpecialQuery c = false) :
    withTail { url with query := none, fragment := none } (queryChars query) =
      { url with query := query, fragment := none } := by
  cases query with
  | none => rfl
  | some text =>
    have hc := hq text rfl
    have hspan : text.span (· ≠ '#') = (text, []) := by
      have hpos : ∀ c ∈ text, (decide (c ≠ '#')) = true := by
        intro c hmem
        refine decide_eq_true ?_
        rintro rfl
        exact absurd (hc _ hmem) (by decide)
      have hsplit := span_append hpos (fun c hmem => nomatch hmem : ∀ c ∈ [].head?, _)
      rwa [List.append_nil] at hsplit
    have hspecial : (kind { url with query := none, fragment := none }).isSpecial = true := by
      change url.kind.isSpecial = true
      rw [hk]
      rfl
    simp only [queryChars, Option.map_some, Option.getD_some, withTail, hspan, hspecial, if_true,
      Percent.encode_eq_self hc]
    rfl

theorem withPath_of_stays {port : Nat} (hk : base.kind = .special port) {path : List Char}
    {query : Option (List Char)} (hend : ∀ c ∈ path, isPathEnd c = false)
    (hs : ∀ s ∈ Path.split (.special port) path, Path.Stays s)
    (hq : ∀ text ∈ query, ∀ c ∈ text, Percent.inSpecialQuery c = false) :
    withPath base [] (path ++ queryChars query) =
      { base with
        path := .segments
          ((Path.split (.special port) path).map (Percent.encode Percent.inPath))
        query := query
        fragment := none } := by
  have hfollow : follow base.kind [] path =
      (Path.split (.special port) path).map (Percent.encode Percent.inPath) := by
    rw [hk]
    change Path.follow (.special port) [] path = _
    rw [Path.follow, Path.pushAll_of_stays hs, List.reverse_nil, List.append_nil,
      List.reverse_reverse]
  have hcounted : Path.counted (queryChars query) = queryChars query := by
    refine Path.counted_of_lt fun c hc => ?_
    cases query with
    | none => cases hc
    | some text =>
      rcases List.mem_cons.mp hc with rfl | hc
      · decide
      · exact lt_of_inSpecialQuery (hq text rfl c hc)
  rw [withPath, splitPath_append hend]
  simp only [hcounted, hfollow]
  have hkind : kind { base with
      path := .segments
        ((Path.split (.special port) path).map (Percent.encode Percent.inPath)) } =
        .special port := hk
  exact withTail_queryChars hkind hq

/-- A text without blanks that begins with one slash leads to a path of the base. -/
theorem join_path {port : Nat} (hb : base.IsEndpoint) (hk : base.kind = .special port)
    {rest : List Char} (hv : ∀ c ∈ rest, 0x20 < c.toNat)
    (hs : ∀ c ∈ rest.head?, isAnySlash c = false) :
    base.join (String.ofList ('/' :: rest)) = .ok (withPath base [] rest) := by
  cases rest with
  | nil =>
    obtain ⟨-, parts, hpath⟩ := hb.rooted
    have htrimmed : Path.counted (trimmed (String.ofList ['/'])) = ['/'] := by
      rw [trimmed_cons (String.toList_ofList) (by decide)]
      rfl
    simp only [join, read, htrimmed, splitScheme_slash, hpath, hk]
    rfl
  | cons c rest =>
    have htail : ∀ d ∈ rest, 0x20 < d.toNat := fun d hd => hv d (List.mem_cons_of_mem c hd)
    rw [join_slash hb.rooted hk String.toList_ofList (hv c List.mem_cons_self) (hs c rfl),
      Text.dropTailWhile_of_lt htail, Path.counted_of_lt htail]

section Words

variable {segment : List Char} {segments : List (List Char)} {query : Option (List Char)}
  (h : ∀ s ∈ segment :: segments, ∀ c ∈ s, Path.isWord c = true)
  (hq : ∀ text ∈ query, ∀ c ∈ text, Percent.inSpecialQuery c = false)

include h hq

private theorem lt_of_mem_written {c : Char}
    (hc : c ∈ ['/'].intercalate (segment :: segments) ++ queryChars query) : 0x20 < c.toNat := by
  rw [List.mem_append] at hc
  rcases hc with hc | hc
  · rcases Form.mem_intercalate hc with rfl | ⟨s, hs, hc⟩
    · decide
    · exact Path.lt_of_isWord (h s hs c hc)
  · cases query with
    | none => cases hc
    | some text =>
      rcases List.mem_cons.mp hc with rfl | hc
      · decide
      · exact lt_of_inSpecialQuery (hq text rfl c hc)

private theorem withPath_words {port : Nat} (hk : base.kind = .special port) :
    withPath base [] (['/'].intercalate (segment :: segments) ++ queryChars query) =
      { base with
        path := .segments ((segment :: segments).map (Percent.encode Percent.inPath))
        query := query
        fragment := none } := by
  have hsegments : ∀ s ∈ segment :: segments, Path.IsSegment s :=
    fun s hs => Path.isSegment_of_words (h s hs)
  have hend : ∀ c ∈ ['/'].intercalate (segment :: segments), isPathEnd c = false := by
    intro c hc
    rcases Form.mem_intercalate hc with rfl | ⟨s, hs, hc⟩
    · rfl
    · exact (hsegments s hs).isPathEnd hc
  have hsplit : Path.split (.special port) (['/'].intercalate (segment :: segments)) =
      segment :: segments :=
    Path.split_intercalate fun s hs c hc => (hsegments s hs).isSlash hc
  have hstays : ∀ s ∈ Path.split (.special port) (['/'].intercalate (segment :: segments)),
      Path.Stays s := by
    rw [hsplit]
    exact fun s hs => (hsegments s hs).stays
  rw [withPath_of_stays hk hend hstays hq, hsplit]

theorem join_words (hb : base.IsEndpoint) {c : Char} {cs : List Char} (hc : segment = c :: cs) :
    base.join (String.ofList
        ('/' :: (['/'].intercalate (segment :: segments) ++ queryChars query))) =
      .ok { base with
        path := .segments ((segment :: segments).map (Percent.encode Percent.inPath))
        query := query
        fragment := none } := by
  obtain ⟨port, hk⟩ := kind_of_isWeb hb.web
  have hhead : (['/'].intercalate (segment :: segments) ++ queryChars query).head? = some c := by
    subst hc
    cases segments with
    | nil => rw [List.intercalate_singleton, List.cons_append, List.head?_cons]
    | cons next segments =>
      rw [List.intercalate_cons_cons, List.append_assoc, List.cons_append, List.cons_append,
        List.head?_cons]
  have hslash : ∀ d ∈ (['/'].intercalate (segment :: segments) ++ queryChars query).head?,
      isAnySlash d = false := by
    intro d hd
    obtain rfl := Option.some.inj (hhead.symm.trans hd)
    have hword := h segment List.mem_cons_self c (hc ▸ List.mem_cons_self)
    simp [isAnySlash, Path.isWord_ne '/' hword (by decide),
      Path.isWord_ne '\\' hword (by decide)]
  rw [join_path hb hk (fun d hd => lt_of_mem_written h hq hd) hslash, withPath_words h hq hk]

end Words

/-! ## Reading -/

def words (url : Url) : List String :=
  url.segments.map fun segment => Utf8.decodeLossy (Percent.decode segment)

def pairs (url : Url) : List (String × String) := Form.decodePairs (url.query.getD [])

@[simp] theorem pairs_appendPairs (url : Url) (pairs : List (String × String)) :
    (url.appendPairs pairs).pairs = url.pairs ++ pairs :=
  Form.decodePairs_getD_append url.query pairs

theorem pairs_of_query_none {url : Url} (h : url.query = none) : url.pairs = [] := by
  rw [pairs, h]
  rfl

private theorem words_of_segments {url : Url} {segments : List (List Char)}
    (hpath : url.path = .segments (segments.map (Percent.encode Percent.inPath)))
    (h : ∀ s ∈ segments, ∀ c ∈ s, Path.isWord c = true) :
    url.words = segments.map String.ofList := by
  rw [words, Url.segments, hpath, List.map_map]
  refine List.map_congr_left fun s hs => ?_
  have hpercent : '%' ∉ s := fun hc => absurd (h s hs _ hc) (by decide)
  rw [Function.comp_apply, Percent.decode_encode _ hpercent, Utf8.decodeLossy_encodeChars]

/-- A text is a path of words: a slash, and the words with slashes between them. -/
structure IsWordPath (text : String) (first : String) (others : List String) : Prop where
  toList : text.toList = '/' :: ['/'].intercalate ((first :: others).map String.toList)
  words : ∀ word ∈ first :: others, ∀ c ∈ word.toList, Path.isWord c = true
  ne_nil : first ≠ ""

theorem join_wordPath (hb : base.IsEndpoint) {text first : String} {others : List String}
    (h : IsWordPath text first others) (query : Option (List Char))
    (hq : ∀ cs ∈ query, ∀ c ∈ cs, Percent.inSpecialQuery c = false) :
    ∃ url, base.join (text ++ String.ofList (queryChars query)) = .ok url ∧ url.site = base.site ∧
      url.words = first :: others ∧ url.query = query := by
  have hsegments : ∀ s ∈ first.toList :: others.map String.toList, ∀ c ∈ s,
      Path.isWord c = true := by
    intro s hs
    rw [← List.map_cons] at hs
    obtain ⟨word, hword, rfl⟩ := List.mem_map.mp hs
    exact h.words word hword
  obtain ⟨c, cs, hfirst⟩ : ∃ c cs, first.toList = c :: cs := by
    cases hcs : first.toList with
    | nil => exact absurd (String.toList_eq_nil_iff.mp hcs) h.ne_nil
    | cons c cs => exact ⟨c, cs, rfl⟩
  have hjoin := join_words hsegments hq hb hfirst
  have htext : String.ofList
      ('/' :: (['/'].intercalate (first.toList :: others.map String.toList) ++
        queryChars query)) = text ++ String.ofList (queryChars query) := by
    rw [← List.cons_append, String.ofList_append, ← List.map_cons, ← h.toList, String.ofList_toList]
  rw [htext] at hjoin
  refine ⟨_, hjoin, rfl, ?_, rfl⟩
  rw [words_of_segments rfl hsegments, ← List.map_cons, List.map_map]
  refine (List.map_congr_left fun word _ => ?_).trans (List.map_id _)
  exact String.ofList_toList

end Url

theorem urlForPath_wordPath {base : Url} (hb : base.IsEndpoint) {text first : String}
    {others : List String} (h : Url.IsWordPath text first others) :
    ∃ url, urlForPath base text = .ok url ∧ url.site = base.site ∧ url.words = first :: others ∧
      url.query = none := by
  obtain ⟨url, hjoin, hurl⟩ := Url.join_wordPath hb h none fun cs hcs => nomatch hcs
  have htext : text ++ String.ofList (Url.queryChars none) = text := String.append_empty
  rw [htext] at hjoin
  refine ⟨url, ?_, hurl⟩
  rw [urlForPath, hjoin]

/-- The first page of a collection is asked for by the words of its path and by its pairs. -/
theorem Query.request_first {query : Query} (hb : query.base.IsEndpoint) {first : String}
    {others : List String} (h : Url.IsWordPath query.path first others) :
    ∃ url, query.request .first = .ok ⟨.fetch, url, none⟩ ∧ url.site = query.base.site ∧
      url.words = first :: others ∧ url.pairs = query.pairs := by
  obtain ⟨url, hurl, hsite, hwords, hquery⟩ := urlForPath_wordPath hb h
  refine ⟨url.appendPairs query.pairs, ?_, hsite, hwords, ?_⟩
  · rw [request, firstUrl, hurl]
    rfl
  · rw [Url.pairs_appendPairs, Url.pairs_of_query_none hquery, List.nil_append]

end RuntimeFlag
