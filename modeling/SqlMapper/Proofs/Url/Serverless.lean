import Mathlib.Data.List.DropRight
import SqlMapper.Proofs.Url.Form
import SqlMapper.Proofs.Url.Reader

/-!
# URLs without a server

After a scheme that is none of the web, and not that of files, the server may be missing. What follows
is a path then: steps from the root, or, if there is no slash, a text of its own. Such a URL is read back
from its text too, if no blanks stand at its end. A path that is a text of its own may end in blanks
before a query; they are taken off when the query is left out.

* `BarePath`, `Bare`: the path of such a URL, and the URL itself, as they are written.
* `barePath_of_ofText`: what is read without a server.
* `ofText_text_of_bare`: it is read back.
* `ofText_withPairs`: every URL that was read may get another query, or lose its own.
-/

namespace SqlMapper.Url

open Percent (Free control inPath inQuery inFragment)

variable {s scheme path : List Char} {u : Url}

/-! ## Specification -/

/-- A path without a server before it: steps from the root, or a text of its own. -/
inductive BarePath (path : List Char) : Prop
  | rooted (settled : PathSettled path)
  | own (free : Free control path) (unmarked : Free isMark path) (head : path.head? ≠ some '/')

/-- A URL without a server as it is written. No blanks stand at its end. -/
structure Bare (u : Url) : Prop where
  server : u.authority? = none
  path : BarePath u.path
  query : ∀ query ∈ u.query?, Free inQuery query
  fragment : ∀ fragment ∈ u.fragment?, Free inFragment fragment
  ends : u.query? = none → u.fragment? = none → u.path.getLast? ≠ some ' '

/-! ## What is read -/

theorem free_splitTail (s : List Char) : Free isMark (splitTail s).1 := by
  intro c hc
  have before : c ∈ (s.takeWhile (· != '#')).takeWhile (· != '?') := hc
  have hquestion := List.mem_takeWhile_imp before
  have hhash := List.mem_takeWhile_imp ((List.takeWhile_sublist _).subset before)
  simp only [bne_iff_ne] at hquestion hhash
  simp [isMark, hquestion, hhash]

/-- Encoding does not bring a slash to the front. -/
theorem head?_encode (set : Char → Bool) (h : s.head? ≠ some '/') :
    (Percent.encode set s).head? ≠ some '/' := by
  cases s with
  | nil => exact h
  | cons c s =>
    intro hhead
    rw [Percent.encode, List.flatMap_cons] at hhead
    cases hc : set c with
    | false =>
      rw [hc] at hhead
      exact h hhead
    | true =>
      obtain ⟨b, bs, hbytes⟩ := List.exists_cons_of_ne_nil (Bytes.encode_singleton_ne_nil c)
      rw [if_pos hc, hbytes, List.flatMap_cons] at hhead
      exact absurd (Option.some.inj hhead) (by decide)

theorem barePath_of_readHierarchy {ends : Bool} (hweb : webPort? scheme = none)
    (hfile : isFile scheme = false) (unmarked : Free isMark s)
    (h : readHierarchy scheme ends s = .ok (none, path)) : BarePath path := by
  cases slashes : ['/', '/'].isPrefixOf s with
  | true =>
    obtain ⟨t, rfl⟩ := List.isPrefixOf_iff_prefix.mp slashes
    have hsome := isSome_of_readHierarchy h
    cases hsome
  | false =>
    rw [readHierarchy_bare hweb hfile slashes] at h
    split at h
    · next slash =>
      cases h
      obtain ⟨t, rfl⟩ := List.head?_eq_some_iff.mp slash
      exact .rooted (settled_normalizePath t)
    · next noSlash =>
      cases h
      exact .own (Percent.spares_parts.1.free_encode s) (unmarked.encode (by decide) control)
        (head?_encode control noSlash)

/-- The path and the fragment of a URL that is read without a server. -/
theorem barePath_of_ofText (h : ofText s = .ok u) (hweb : webPort? u.scheme = none)
    (hfile : isFile u.scheme = false) (server : u.authority? = none) :
    BarePath u.path ∧ ∀ fragment ∈ u.fragment?, Free inFragment fragment := by
  obtain ⟨rest, -, hparts, -, hfragment⟩ := ofText_eq_ok_iff.mp h
  rw [server] at hparts
  refine ⟨barePath_of_readHierarchy hweb hfile (free_splitTail rest) hparts, ?_⟩
  intro fragment hmem
  rw [hfragment] at hmem
  obtain ⟨t, -, rfl⟩ := Option.map_eq_some_iff.mp hmem
  exact Percent.spares_parts.2.1.free_encode t

/-! ## What is read back -/

/-- A step to the same place after the root changes nothing. -/
theorem normalizePath_setOff (s : List Char) :
    normalizePath false ('/' :: '.' :: '/' :: s) = normalizePath false ('/' :: s) := by
  obtain ⟨step, steps, hsteps⟩ :=
    List.exists_cons_of_ne_nil (Text.splitOn_ne_nil '/' (Percent.encode inPath s))
  have root : Text.splitOn '/' (Percent.encode inPath ('/' :: s)) = [] :: step :: steps :=
    congrArg ([] :: ·) hsteps
  have setOff : Text.splitOn '/' (Percent.encode inPath ('/' :: '.' :: '/' :: s)) =
      [] :: ['.'] :: step :: steps := congrArg ([] :: ['.'] :: ·) hsteps
  have same : followSteps [[]] (['.'] :: step :: steps) = followSteps [[]] (step :: steps) := rfl
  show Text.joinWith ['/'] (followSteps [] (Text.splitOn '/' (Percent.encode inPath
      ('/' :: '.' :: '/' :: s)))) =
    Text.joinWith ['/'] (followSteps [] (Text.splitOn '/' (Percent.encode inPath ('/' :: s))))
  rw [root, setOff, followSteps_cons_of_not_isDots not_isDots_nil, same,
    followSteps_cons_of_not_isDots not_isDots_nil]

theorem normalizePath_of_settled (h : PathSettled ('/' :: s)) :
    normalizePath false ('/' :: s) = '/' :: s := pathAfterServer_of_settled h

theorem BarePath.unmarked (h : BarePath path) : Free isMark path := by
  cases h with
  | rooted settled => exact settled.free.mono fun c hc => (mem_parts_of_isMark c hc).2
  | own _ unmarked _ => exact unmarked

theorem BarePath.free (h : BarePath path) : Free control path := by
  cases h with
  | rooted settled => exact settled.free.mono fun c hc => by simp [inPath, inFragment, hc]
  | own free _ _ => exact free

/-- The path is read back, with what sets off its slashes. -/
theorem readHierarchy_barePath {ends : Bool} (hweb : webPort? scheme = none)
    (hfile : isFile scheme = false) (h : BarePath path) :
    readHierarchy scheme ends ((if ['/', '/'].isPrefixOf path then ['/', '.'] else []) ++ path) =
      .ok (none, path) := by
  have own (slashes : ['/', '/'].isPrefixOf path = false) (head : path.head? ≠ some '/')
      (free : Free control path) : readHierarchy scheme ends path = .ok (none, path) := by
    rw [readHierarchy_bare hweb hfile slashes, if_neg head, free.encode_eq]
  cases h with
  | own free _ head =>
    have slashes : ['/', '/'].isPrefixOf path = false := by
      rw [← Bool.not_eq_true, List.isPrefixOf_iff_prefix]
      rintro ⟨t, rfl⟩
      exact head rfl
    rw [slashes]
    exact own slashes head free
  | rooted settled =>
    cases path with
    | nil => exact own rfl (by decide) Percent.free_nil
    | cons c s =>
      obtain rfl : c = '/' := by
        cases settled
        rfl
      cases slashes : ['/', '/'].isPrefixOf ('/' :: s) with
      | false =>
        rw [if_neg Bool.false_ne_true, List.nil_append, readHierarchy_bare hweb hfile slashes,
          List.head?_cons, if_pos rfl, normalizePath_of_settled settled]
      | true =>
        have setOff : ['/', '/'].isPrefixOf ('/' :: '.' :: '/' :: s) = false := rfl
        rw [if_pos rfl, List.cons_append, List.singleton_append, readHierarchy_bare hweb hfile setOff,
          List.head?_cons, if_pos rfl, normalizePath_setOff, normalizePath_of_settled settled]

/-! ## The end of a text -/

/-- The last character of a text is no blank and no control. -/
def EndsClean (s : List Char) : Prop := ∀ c ∈ s.getLast?, isMargin c = false

theorem endsClean_of_free (h : Free isMargin s) : EndsClean s :=
  fun c hc => h c (List.mem_of_mem_getLast? hc)

theorem endsClean_append {t : List Char} (ht : EndsClean t) (hs : t = [] → EndsClean s) :
    EndsClean (s ++ t) := by
  intro c hc
  rw [List.getLast?_append] at hc
  cases hlast : t.getLast? with
  | none =>
    rw [hlast] at hc
    exact hs (List.getLast?_eq_none_iff.mp hlast) c hc
  | some d =>
    rw [hlast] at hc
    exact ht c (hlast.trans hc)

theorem eq_blank_of_isMargin {c : Char} (hmargin : isMargin c = true) (hcontrol : control c = false) :
    c = ' ' := by
  simp only [isMargin, decide_eq_true_eq] at hmargin
  simp only [Percent.control, Bool.or_eq_false_iff, decide_eq_false_iff_not] at hcontrol
  have hnumber : c.toNat = ' '.toNat := by
    show c.toNat = 0x20
    omega
  exact Char.toNat_inj.mp hnumber

/-- Only blanks at its end would be taken off a path. -/
theorem BarePath.endsClean (h : BarePath path) (noBlank : path.getLast? ≠ some ' ') : EndsClean path := by
  intro c hc
  rw [← Bool.not_eq_true]
  intro hmargin
  have hblank : c = ' ' := eq_blank_of_isMargin hmargin (h.free c (List.mem_of_mem_getLast? hc))
  exact noBlank (hblank ▸ hc)

theorem marked_eq_nil_iff {mark : Char} {part? : Option (List Char)} :
    marked mark part? = [] ↔ part? = none := by
  cases part? <;> simp [marked]

/-! ## Whole URLs -/

/-- A scheme is not empty, and nothing is taken off it. -/
theorem Foreign.head (h : Foreign scheme) : ∀ c ∈ (scheme ++ ':' :: s).head?, isMargin c = false := by
  intro c hc
  cases scheme with
  | nil => cases h.letter
  | cons d rest =>
    obtain rfl := Option.some.inj hc
    exact h.written.1 d List.mem_cons_self

theorem beforePath_of_bare (h : Bare u) :
    u.beforePath = if ['/', '/'].isPrefixOf u.path then ['/', '.'] else [] := by
  rw [beforePath, h.server]

theorem clean_text_of_bare (foreign : Foreign u.scheme) (h : Bare u) : clean u.text = u.text := by
  have hquery : Free isMargin (marked '?' u.query?) := free_marked (by decide) fun query hq =>
    (h.query query hq).mono fun c hc => (mem_parts_of_isMargin c hc).2.2.1
  have hfragment : Free isMargin (marked '#' u.fragment?) := free_marked (by decide) fun fragment hf =>
    (h.fragment fragment hf).mono fun c hc => (mem_parts_of_isMargin c hc).2.2.2
  have hsetOff : Free isMargin u.beforePath := by
    rw [beforePath_of_bare h]
    split <;> decide
  have unbroken : Free isBreak u.path := h.path.free.mono fun c hc => by
    simp only [isBreak, Bool.or_eq_true, beq_iff_eq] at hc
    rcases hc with (rfl | rfl) | rfl <;> decide
  rw [text_eq_marked]
  refine clean_eq_self foreign.head ?_ ?_
  · have colon : EndsClean [':'] := endsClean_of_free (by decide)
    refine endsClean_append (endsClean_append (s := [':']) ?_ fun _ => colon) fun h => by cases h
    exact endsClean_append (endsClean_of_free hfragment) fun noFragment =>
      endsClean_append (endsClean_of_free hquery) fun noQuery =>
        endsClean_append (h.path.endsClean (h.ends (marked_eq_nil_iff.mp noQuery)
          (marked_eq_nil_iff.mp noFragment))) fun _ => endsClean_of_free hsetOff
  · simp only [Percent.free_append, Percent.free_cons]
    exact ⟨foreign.written.1.mono isMargin_of_isBreak, by decide, ⟨⟨hsetOff.mono isMargin_of_isBreak,
      unbroken⟩, hquery.mono isMargin_of_isBreak⟩, hfragment.mono isMargin_of_isBreak⟩

/-- **A URL without a server is read back as it was written.** -/
theorem ofText_text_of_bare (foreign : Foreign u.scheme) (h : Bare u) : ofText u.text = .ok u := by
  refine ofText_text_of_front foreign (clean_text_of_bare foreign h) ?_ (fun ends => ?_) h.query h.fragment
  · rw [beforePath_of_bare h, Percent.free_append]
    refine ⟨?_, h.path.unmarked⟩
    split <;> decide
  · rw [beforePath_of_bare h, h.server]
    exact readHierarchy_barePath foreign.web foreign.file h.path

/-! ## Another query -/

theorem head?_rdropWhile (p : Char → Bool) (h : s.head? ≠ some '/') :
    (s.rdropWhile p).head? ≠ some '/' := by
  intro slash
  obtain ⟨rest, hrest⟩ := List.rdropWhile_prefix p s
  rw [← hrest, List.head?_append, slash] at h
  exact h rfl

/-- Without the blanks at its end, a path that is a text of its own still is one. -/
theorem BarePath.rdropWhile (h : BarePath path) (head : path.head? ≠ some '/') (p : Char → Bool) :
    BarePath (path.rdropWhile p) := by
  have kept := (List.rdropWhile_prefix p path).subset
  exact .own (fun c hc => h.free c (kept hc)) (fun c hc => h.unmarked c (kept hc))
    (head?_rdropWhile p head)

/-- A path that is a text of its own and stands at the end loses its blanks with the query. -/
theorem withoutQuery_of_own (own : u.hasOpaquePath ∧ u.fragment? = none) :
    u.withoutQuery = { u with path := u.path.rdropWhile (· = ' '), query? := none } := by
  simp only [withoutQuery, if_pos own]
  rfl

theorem withoutQuery_of_not_own (own : ¬(u.hasOpaquePath ∧ u.fragment? = none)) :
    u.withoutQuery = { u with query? := none } := by
  simp only [withoutQuery, if_neg own]

theorem withoutQuery_withoutQuery (u : Url) : u.withoutQuery.withoutQuery = u.withoutQuery := by
  by_cases own : u.hasOpaquePath ∧ u.fragment? = none
  · have still : Url.hasOpaquePath { u with path := u.path.rdropWhile (· = ' '), query? := none } := by
      have hown := own.1
      simp only [hasOpaquePath, Bool.and_eq_true, decide_eq_true_eq] at hown ⊢
      exact ⟨hown.1, head?_rdropWhile _ hown.2⟩
    rw [withoutQuery_of_own own, withoutQuery_of_own ⟨still, own.2⟩]
    simp only [List.rdropWhile_idempotent]
  · rw [withoutQuery_of_not_own own]
    exact withoutQuery_of_not_own own

/-- Without a query no blanks are left at the end. -/
theorem bare_withoutQuery (server : u.authority? = none) (path : BarePath u.path)
    (fragment : ∀ fragment ∈ u.fragment?, Free inFragment fragment) : Bare u.withoutQuery := by
  by_cases own : u.hasOpaquePath ∧ u.fragment? = none
  · have head : u.path.head? ≠ some '/' := by
      simpa [hasOpaquePath, server] using own.1
    rw [withoutQuery_of_own own]
    refine ⟨server, path.rdropWhile head _, by simp, fragment, ?_⟩
    intro _ _ blank
    have hne : u.path.rdropWhile (· = ' ') ≠ [] := by
      intro hnil
      dsimp only at blank
      rw [hnil] at blank
      cases blank
    have hlast := (List.getLast_eq_iff_getLast?_eq_some hne).mpr blank
    exact List.rdropWhile_last_not _ _ hne (decide_eq_true hlast)
  · rw [withoutQuery_of_not_own own]
    refine ⟨server, path, by simp, fragment, ?_⟩
    intro _ noFragment blank
    have head : u.path.head? = some '/' := by
      simpa [hasOpaquePath, server, show u.fragment? = none from noFragment] using own
    cases path with
    | rooted settled => exact settled.free.not_mem (by decide) (List.mem_of_getLast? blank)
    | own _ _ noSlash => exact noSlash head

theorem pairs_withPairs (u : Url) (pairs : List (String × String)) :
    (u.withPairs pairs).pairs = pairs := by
  unfold withPairs
  split
  · next hnil => exact hnil.symm
  · exact Form.read_write pairs

theorem query?_withPairs_eq_none_iff {pairs : List (String × String)} :
    (u.withPairs pairs).query? = none ↔ pairs = [] := by
  unfold withPairs
  split
  · next hnil => exact iff_of_true rfl hnil
  · next hne => exact iff_of_false (Option.some_ne_none _) hne

theorem free_of_mem_written {pairs : List (String × String)} :
    ∀ query ∈ some (Form.write pairs), Free inQuery query := by
  intro query hquery
  cases hquery
  exact Form.free_write pairs

/-- With other pairs in its query, or with none, a URL is as it is written. -/
theorem bare_withPairs (server : u.authority? = none) (path : BarePath u.path)
    (fragment : ∀ fragment ∈ u.fragment?, Free inFragment fragment) (pairs : List (String × String)) :
    Bare (u.withPairs pairs) := by
  unfold withPairs
  split
  · exact bare_withoutQuery server path fragment
  · exact ⟨server, path, free_of_mem_written, fragment, fun noQuery => by cases noQuery⟩

/-- With a server nothing but the query changes. -/
theorem settled_withPairs (h : Settled u) (pairs : List (String × String)) :
    Settled (u.withPairs pairs) := by
  obtain ⟨a, ha, hauthority⟩ := h.authority
  unfold withPairs
  split
  · rw [withoutQuery_of_not_own (by simp [hasOpaquePath, ha])]
    exact ⟨h.authority, h.path, by simp, h.fragment⟩
  · exact ⟨h.authority, h.path, free_of_mem_written, h.fragment⟩

theorem scheme_withPairs (u : Url) (pairs : List (String × String)) :
    (u.withPairs pairs).scheme = u.scheme := by
  unfold withPairs
  split <;> rfl

/-- **A URL that was read may get another scheme and another query**, and is read back then. -/
theorem ofText_withPairs {scheme' : List Char} (h : ofText s = .ok u) (foreign : Foreign u.scheme)
    (hscheme : Foreign scheme') (pairs : List (String × String)) :
    let v := { u with scheme := scheme' }.withPairs pairs
    ofText v.text = .ok v := by
  intro v
  have hv : Foreign v.scheme := by
    rw [scheme_withPairs]
    exact hscheme
  by_cases server : u.authority? = none
  · obtain ⟨path, fragment⟩ := barePath_of_ofText h foreign.web foreign.file server
    have bare : v.Bare := by
      apply bare_withPairs
      exacts [server, path, fragment]
    exact ofText_text_of_bare hv bare
  · have settled := settled_of_ofText h foreign.web foreign.file server
    have settled' : Settled { u with scheme := scheme' } :=
      ⟨settled.authority, settled.path, settled.query, settled.fragment⟩
    exact ofText_text hv (settled_withPairs settled' pairs)

end SqlMapper.Url
