import SqlMapper.Proofs.Url.Path
import SqlMapper.Proofs.Url.Server

/-!
# URLs read back

The URLs of the schemes that are none of the web, and not that of files, with a server: the text of such
a URL, once it has been read, is read back as the same URL.

* `Settled`: a URL as it comes out of reading.
* `settled_of_ofText`: what is read is settled.
* `ofText_text_of_front`: what has to be read back before query and fragment, with a server or without.
* `ofText_text`: what is settled is read back.
* `authority?_ne_none`: what follows a scheme with two slashes has a server.
-/

namespace SqlMapper.Url

open Percent (Free inQuery inFragment)

variable {s scheme rest : List Char} {u : Url}

/-! ## Blanks and controls -/

/-- Whether a character is taken off the ends of a text. -/
def isMargin (c : Char) : Bool := c.toNat ≤ 0x20

/-- Every set that has the controls and the blank has all these characters. -/
theorem mem_of_isMargin {set : Char → Bool} (hcontrol : ∀ c, Percent.control c = true → set c = true)
    (hblank : set ' ' = true) (c : Char) (h : isMargin c = true) : set c = true := by
  have hle : c.toNat ≤ 0x20 := of_decide_eq_true h
  rcases Nat.lt_or_eq_of_le hle with hlt | heq
  · exact hcontrol c (by rw [Percent.control, decide_eq_true hlt, Bool.true_or])
  · have hc : Char.ofNat c.toNat = c := Char.ofNat_toNat c
    rw [heq] at hc
    rw [← hc]
    exact hblank

theorem dropWhile_append_cons {p : Char → Bool} {c : Char} (hc : p c = false) (s t : List Char) :
    (s ++ c :: t).dropWhile p = s.dropWhile p ++ c :: t := by
  induction s with
  | nil => exact List.dropWhile_cons_of_neg (by simp [hc])
  | cons d s ih =>
    cases hd : p d with
    | true => rw [List.cons_append, List.dropWhile_cons_of_pos hd, List.dropWhile_cons_of_pos hd, ih]
    | false =>
      rw [List.cons_append, List.dropWhile_cons_of_neg (by simp [hd]),
        List.dropWhile_cons_of_neg (by simp [hd]), List.cons_append]

/-- Line breaks and tabs, which are taken out of a text. -/
def isBreak (c : Char) : Bool := c == '\t' || c == '\n' || c == '\r'

/-- A text is not changed that has no blanks and controls at its ends, and no line breaks and tabs. -/
theorem clean_eq_self (first : ∀ c ∈ s.head?, isMargin c = false)
    (last : ∀ c ∈ s.getLast?, isMargin c = false) (unbroken : Free isBreak s) : clean s = s := by
  have keeps : ∀ t : List Char, (∀ c ∈ t.head?, isMargin c = false) → t.dropWhile isMargin = t := by
    intro t ht
    cases t with
    | nil => rfl
    | cons c t => exact List.dropWhile_cons_of_neg (by simp [ht c rfl])
  show (((s.dropWhile isMargin).reverse.dropWhile isMargin).reverse.filter fun c =>
    c ≠ '\t' && c ≠ '\n' && c ≠ '\r') = s
  rw [keeps s first, keeps s.reverse (by rwa [List.head?_reverse]), List.reverse_reverse,
    List.filter_eq_self]
  intro c hc
  have h := unbroken c hc
  simp only [isBreak, Bool.or_eq_false_iff, beq_eq_false_iff_ne] at h
  simp [h]

/-- Line breaks and tabs are among the blanks and controls. -/
theorem isMargin_of_isBreak (c : Char) (h : isBreak c = true) : isMargin c = true := by
  simp only [isBreak, Bool.or_eq_true, beq_iff_eq] at h
  rcases h with (rfl | rfl) | rfl <;> decide

/-- A text without blanks and controls is not changed. -/
theorem clean_of_free (h : Free isMargin s) : clean s = s :=
  clean_eq_self (fun c hc => h c (List.mem_of_mem_head? hc))
    (fun c hc => h c (List.mem_of_mem_getLast? hc)) (h.mono isMargin_of_isBreak)

/-- A text without line breaks and tabs. -/
def unbroken (s : List Char) : List Char := s.filter (!isBreak ·)

theorem mem_of_mem_unbroken {c : Char} (h : c ∈ unbroken s) : c ∈ s := (List.mem_filter.mp h).1

/-- What is left of the start of a text: blanks and controls are taken off its front. -/
def cleanStart (s : List Char) : List Char := unbroken (s.dropWhile isMargin)

/-- What is left of the end of a text: blanks and controls are taken off its end. -/
def cleanEnd (s : List Char) : List Char := unbroken (s.reverse.dropWhile isMargin).reverse

/-- Between two characters that stay, only line breaks and tabs are taken out. -/
theorem clean_append {c d : Char} (hc : isMargin c = false) (hd : isMargin d = false)
    (s mid t : List Char) : clean (s ++ c :: mid ++ d :: t) =
      cleanStart s ++ c :: unbroken mid ++ d :: cleanEnd t := by
  have kept : (fun c : Char => decide (c ≠ '\t') && decide (c ≠ '\n') && decide (c ≠ '\r')) =
      fun c => !isBreak c := by
    funext c
    rw [Bool.eq_iff_iff]
    simp [isBreak, and_assoc]
  have stays : ∀ {c}, isMargin c = false → isBreak c = false := fun h =>
    Bool.eq_false_iff.mpr fun hbreak => Bool.eq_false_iff.mp h (isMargin_of_isBreak _ hbreak)
  have hreverse : (s.dropWhile isMargin ++ c :: (mid ++ d :: t)).reverse =
      t.reverse ++ d :: (mid.reverse ++ c :: (s.dropWhile isMargin).reverse) := by simp
  show (((s ++ c :: mid ++ d :: t).dropWhile isMargin).reverse.dropWhile isMargin).reverse.filter _ = _
  rw [kept, List.append_assoc, List.cons_append, dropWhile_append_cons hc, hreverse,
    dropWhile_append_cons hd, List.reverse_append]
  simp [List.filter_append, cleanStart, cleanEnd, unbroken, stays hc, stays hd]

theorem not_mem_cleanStart {c : Char} (h : c ∉ s) : c ∉ cleanStart s := fun hmem =>
  h ((List.dropWhile_sublist isMargin).subset (mem_of_mem_unbroken hmem))

/-- Two slashes after a colon stay where they are. -/
theorem exists_clean_server (hscheme : ':' ∉ scheme) (rest : List Char) :
    ∃ scheme' rest', ':' ∉ scheme' ∧
      clean (scheme ++ ':' :: '/' :: '/' :: rest) = scheme' ++ ':' :: '/' :: '/' :: rest' := by
  have hclean := clean_append (c := ':') (d := '/') (by decide) (by decide) scheme ['/'] rest
  refine ⟨cleanStart scheme, cleanEnd rest, not_mem_cleanStart hscheme, ?_⟩
  simpa [unbroken, isBreak] using hclean

/-! ## What is read -/

/-- A URL with a server as it is written. -/
structure Settled (u : Url) : Prop where
  authority : ∃ a, u.authority? = some a ∧ AuthoritySettled a
  path : PathSettled u.path
  query : ∀ query ∈ u.query?, Free inQuery query
  fragment : ∀ fragment ∈ u.fragment?, Free inFragment fragment

/-- The schemes that this is about: as they are written, none of the web, and not that of files. -/
structure Foreign (scheme : List Char) : Prop where
  letter : (scheme.head?.map Char.isAlpha).getD false = true
  allowed : scheme.all isSchemeChar = true
  small : scheme.map Char.toLower = scheme
  written : Free isMargin scheme ∧ ':' ∉ scheme
  web : webPort? scheme = none
  file : isFile scheme = false

theorem isWeb_eq_false (hweb : webPort? scheme = none) : isWeb scheme = false := by
  rw [isWeb, hweb]
  rfl

/-- Server and path of a URL with a server. -/
theorem readHierarchy_server {ends : Bool} (hweb : webPort? scheme = none) (hfile : isFile scheme = false)
    (s : List Char) :
    readHierarchy scheme ends ('/' :: '/' :: s) = (do
      let (authority, rest) ← readAuthority scheme (ends && (s.dropWhile (· ≠ '/')).isEmpty)
        (s.takeWhile (· ≠ '/'))
      return (some authority, pathAfterServer false (rest ++ s.dropWhile (· ≠ '/')))) := by
  unfold readHierarchy
  simp [hfile, isWeb_eq_false hweb]

/-- Without two slashes there is no server. -/
theorem readHierarchy_bare {ends : Bool} (hweb : webPort? scheme = none) (hfile : isFile scheme = false)
    (bare : ['/', '/'].isPrefixOf s = false) : readHierarchy scheme ends s =
      if s.head? = some '/' then .ok (none, normalizePath false s)
      else .ok (none, Percent.encode Percent.control s) := by
  unfold readHierarchy
  simp [hfile, isWeb_eq_false hweb, bare]
  rfl

/-- Without two slashes there is no server; with them server and path are settled. -/
theorem settled_of_readHierarchy {ends : Bool} {authority? : Option Authority} {path : List Char}
    (hweb : webPort? scheme = none) (hfile : isFile scheme = false)
    (h : readHierarchy scheme ends s = .ok (authority?, path)) :
    authority? = none ∨ ∃ a, authority? = some a ∧ AuthoritySettled a ∧ PathSettled path := by
  by_cases slashes : ['/', '/'].isPrefixOf s = true
  · obtain ⟨t, rfl⟩ := List.isPrefixOf_iff_prefix.mp slashes
    rw [List.cons_append, List.singleton_append, readHierarchy_server hweb hfile] at h
    obtain ⟨⟨a, rest⟩, ha, h⟩ := exists_of_bind_eq_ok h
    cases h
    exact .inr ⟨a, rfl, settled_of_readAuthority hweb ha, settled_pathAfterServer _⟩
  · rw [readHierarchy_bare hweb hfile (Bool.not_eq_true _ ▸ slashes)] at h
    split at h
    · cases h
      exact .inl rfl
    · cases h
      exact .inl rfl

/-- With two slashes there is a server, whatever the scheme. -/
theorem isSome_of_readHierarchy {ends : Bool} {authority? : Option Authority} {path : List Char}
    (h : readHierarchy scheme ends ('/' :: '/' :: s) = .ok (authority?, path)) :
    authority?.isSome = true := by
  unfold readHierarchy at h
  split at h
  · obtain ⟨_, -, h⟩ := exists_of_bind_eq_ok h
    cases h
    rfl
  · have slashes : isWeb scheme = true ∨ ['/', '/'].isPrefixOf ('/' :: '/' :: s) = true := .inr rfl
    dsimp only at h
    rw [if_pos slashes] at h
    obtain ⟨_, -, h⟩ := exists_of_bind_eq_ok h
    cases h
    rfl

/-! ## Whole URLs -/

/-- The parts before and after a hash, and before and after a question mark before that. -/
def splitTail (s : List Char) : List Char × Option (List Char) × Option (List Char) :=
  let (rest, fragment?) := Text.splitAtFirst '#' s
  let (rest, query?) := Text.splitAtFirst '?' rest
  (rest, query?, fragment?)

/-- What is encoded in the query of a URL. -/
def inQueryOf (scheme : List Char) (c : Char) : Bool :=
  inQuery c || ((isWeb scheme || isFile scheme) && c = '\'')

theorem inQueryOf_eq (hweb : webPort? scheme = none) (hfile : isFile scheme = false) :
    inQueryOf scheme = inQuery := by
  funext c
  simp [inQueryOf, isWeb_eq_false hweb, hfile]

theorem ofText_eq (h : splitScheme? (clean s) = some (scheme, rest)) :
    ofText s = (do
      let (authority?, path) ← readHierarchy scheme
        ((splitTail rest).2.2.isNone && (splitTail rest).2.1.isNone) (splitTail rest).1
      return ⟨scheme, authority?, path, (splitTail rest).2.1.map (Percent.encode (inQueryOf scheme)),
        (splitTail rest).2.2.map (Percent.encode inFragment)⟩) := by
  rw [ofText, h]
  rfl

/-- The parts of a URL that is read. -/
theorem ofText_eq_ok_iff : ofText s = .ok u ↔
    ∃ rest, splitScheme? (clean s) = some (u.scheme, rest) ∧
      readHierarchy u.scheme ((splitTail rest).2.2.isNone && (splitTail rest).2.1.isNone)
        (splitTail rest).1 = .ok (u.authority?, u.path) ∧
      u.query? = (splitTail rest).2.1.map (Percent.encode (inQueryOf u.scheme)) ∧
      u.fragment? = (splitTail rest).2.2.map (Percent.encode inFragment) := by
  constructor
  · intro h
    cases hscheme : splitScheme? (clean s) with
    | none =>
      rw [ofText, hscheme] at h
      cases h
    | some parts =>
      rw [ofText_eq hscheme] at h
      obtain ⟨⟨authority?, path⟩, hparts, h⟩ := exists_of_bind_eq_ok h
      cases h
      exact ⟨parts.2, rfl, hparts, rfl, rfl⟩
  · rintro ⟨rest, hscheme, hparts, hquery, hfragment⟩
    rw [ofText_eq hscheme, hparts, ← hquery, ← hfragment]
    rfl

/-- What is read is settled, if it has a server. -/
theorem settled_of_ofText (h : ofText s = .ok u) (hweb : webPort? u.scheme = none)
    (hfile : isFile u.scheme = false) (server : u.authority? ≠ none) : Settled u := by
  obtain ⟨rest, -, hparts, hquery, hfragment⟩ := ofText_eq_ok_iff.mp h
  have spares := Percent.spares_parts
  have encoded : ∀ {set : Char → Bool} {part? : Option (List Char)}, Percent.Spares set →
      ∀ part ∈ part?.map (Percent.encode set), Free set part := by
    intro set part? hspares part hpart
    obtain ⟨t, -, rfl⟩ := Option.map_eq_some_iff.mp hpart
    exact hspares.free_encode t
  obtain hnone | ⟨a, ha, hsettled, hpath⟩ := settled_of_readHierarchy hweb hfile hparts
  · exact absurd hnone server
  · refine ⟨⟨a, ha, hsettled⟩, hpath, ?_, ?_⟩
    · rw [hquery, inQueryOf_eq hweb hfile]
      exact encoded spares.2.2.1
    · rw [hfragment]
      exact encoded spares.2.1

/-- The marks that end what stands before query and fragment. -/
def isMark (c : Char) : Bool := c == '?' || c == '#'

/-- The tail of a URL begins at the first mark. -/
theorem splitTail_append {front : List Char} (h : Free isMark front) (rest : List Char) :
    splitTail (front ++ rest) = (front ++ (splitTail rest).1, (splitTail rest).2) := by
  have skip : ∀ (mark : Char) (t : List Char), isMark mark = true →
      Text.splitAtFirst mark (front ++ t) =
        (front ++ (Text.splitAtFirst mark t).1, (Text.splitAtFirst mark t).2) := by
    intro mark t hmark
    have hne := Text.bne_of_not_mem (h.not_mem hmark)
    rw [Text.splitAtFirst, List.takeWhile_append_of_pos hne, List.dropWhile_append_of_pos hne,
      Text.splitAtFirst]
  simp only [splitTail, skip '#' _ rfl, skip '?' _ rfl]

/-- What follows a scheme with two slashes has a server. -/
theorem authority?_ne_none (hscheme : ':' ∉ scheme)
    (h : ofText (scheme ++ ':' :: '/' :: '/' :: rest) = .ok u) : u.authority? ≠ none := by
  obtain ⟨scheme', rest', hcolon, hclean⟩ := exists_clean_server hscheme rest
  obtain ⟨tail, htail, hparts, -⟩ := ofText_eq_ok_iff.mp h
  rw [hclean, splitScheme?, Text.splitAtFirst_append hcolon] at htail
  dsimp only at htail
  split at htail
  · obtain ⟨-, rfl⟩ := Prod.mk.inj (Option.some.inj htail)
    have slashes : Free isMark ['/', '/'] := by decide
    have htail := congrArg Prod.fst (splitTail_append slashes rest')
    dsimp only [List.cons_append, List.nil_append] at htail
    rw [htail] at hparts
    have hsome := isSome_of_readHierarchy hparts
    rintro hnone
    rw [hnone] at hsome
    cases hsome
  · cases htail

/-! ## What is read back -/

/-- A part of a URL after its mark. -/
def marked (mark : Char) : Option (List Char) → List Char
  | some part => mark :: part
  | none => []

theorem free_marked {set : Char → Bool} {mark : Char} {part? : Option (List Char)}
    (hmark : set mark = false) (h : ∀ part ∈ part?, Free set part) : Free set (marked mark part?) := by
  cases part? with
  | none => exact Percent.free_nil
  | some part => exact Percent.free_cons.mpr ⟨hmark, h part rfl⟩

theorem splitAtFirst_marked {mark : Char} {part : List Char} (h : mark ∉ part)
    (part? : Option (List Char)) :
    Text.splitAtFirst mark (part ++ marked mark part?) = (part, part?) := by
  cases part? with
  | none => rw [marked, List.append_nil, Text.splitAtFirst_of_not_mem h]
  | some next => exact Text.splitAtFirst_append h next

section ReadBack

variable {a : Authority} {path : List Char} {query? fragment? : Option (List Char)}

/-- The sets of all parts have the characters that are taken off the ends of a text. -/
theorem mem_parts_of_isMargin (c : Char) (h : isMargin c = true) :
    isBoundary c = true ∧ Percent.inPath c = true ∧ inQuery c = true ∧ inFragment c = true := by
  have fragment : ∀ c, Percent.control c = true → inFragment c = true := by
    intro c hc
    rw [inFragment, hc, Bool.true_or]
  refine ⟨?_, ?_, ?_, ?_⟩
  · exact mem_of_isMargin (fun c hc => by rw [isBoundary, hc, Bool.true_or]) (by decide) c h
  · exact mem_of_isMargin (fun c hc => by rw [Percent.inPath, fragment c hc, Bool.true_or]) (by decide) c h
  · exact mem_of_isMargin (fun c hc => by rw [inQuery, hc, Bool.true_or]) (by decide) c h
  · exact mem_of_isMargin fragment (by decide) c h

theorem readHierarchy_text {ends : Bool} (hweb : webPort? scheme = none) (hfile : isFile scheme = false)
    (ha : AuthoritySettled a) (hpath : PathSettled path) :
    readHierarchy scheme ends ('/' :: '/' :: a.text ++ path) = .ok (some a, path) := by
  have inside : ∀ c ∈ a.text, decide (c ≠ '/') = true := by
    intro c hc
    rw [decide_eq_true_eq]
    rintro rfl
    exact ha.free.not_mem (by decide) hc
  have outside : path.takeWhile (· ≠ '/') = [] ∧ path.dropWhile (· ≠ '/') = path := by
    cases hpath with
    | empty => exact ⟨rfl, rfl⟩
    | steps => exact ⟨rfl, rfl⟩
  rw [List.cons_append, List.cons_append, readHierarchy_server hweb hfile,
    List.takeWhile_append_of_pos inside, List.dropWhile_append_of_pos inside, outside.1, outside.2,
    List.append_nil, readAuthority_text hweb ha]
  show Except.ok (some a, pathAfterServer false ([] ++ path)) = _
  rw [List.nil_append, pathAfterServer_of_settled hpath]

theorem mem_parts_of_isMark (c : Char) (h : isMark c = true) :
    isBoundary c = true ∧ Percent.inPath c = true := by
  simp only [isMark, Bool.or_eq_true, beq_iff_eq] at h
  rcases h with rfl | rfl <;> decide

theorem splitTail_text {front : List Char} (hfront : Free isMark front)
    (hquery : ∀ query ∈ query?, Free inQuery query) :
    splitTail (front ++ marked '?' query? ++ marked '#' fragment?) = (front, query?, fragment?) := by
  have noHash : '#' ∉ front ++ marked '?' query? := by
    intro hmem
    rcases List.mem_append.mp hmem with hmem | hmem
    · exact hfront.not_mem (by decide) hmem
    · exact (free_marked (by decide) hquery).not_mem (by decide) hmem
  have noQuestion : '?' ∉ front := hfront.not_mem (by decide)
  rw [splitTail, splitAtFirst_marked noHash]
  dsimp only
  rw [splitAtFirst_marked noQuestion]

theorem text_eq_marked (u : Url) : u.text =
    u.scheme ++ ':' :: (u.beforePath ++ u.path ++ marked '?' u.query? ++ marked '#' u.fragment?) := by
  unfold text
  cases u.query? <;> cases u.fragment? <;> simp [marked]

/-- A URL is read back if its text is clean, and what stands before query and fragment is read as server
    and path. -/
theorem ofText_text_of_front (foreign : Foreign u.scheme) (hclean : clean u.text = u.text)
    (hfront : Free isMark (u.beforePath ++ u.path))
    (hread : ∀ ends, readHierarchy u.scheme ends (u.beforePath ++ u.path) = .ok (u.authority?, u.path))
    (hquery : ∀ query ∈ u.query?, Free inQuery query)
    (hfragment : ∀ fragment ∈ u.fragment?, Free inFragment fragment) : ofText u.text = .ok u := by
  have hscheme : splitScheme? (clean u.text) = some (u.scheme,
      u.beforePath ++ u.path ++ marked '?' u.query? ++ marked '#' u.fragment?) := by
    rw [hclean, text_eq_marked, splitScheme?, Text.splitAtFirst_append foreign.written.2]
    dsimp only
    rw [if_pos (by rw [foreign.letter, foreign.allowed]; rfl), foreign.small]
  have unchanged : ∀ {set : Char → Bool} {part? : Option (List Char)},
      (∀ part ∈ part?, Free set part) → part?.map (Percent.encode set) = part? := by
    intro set part? hfree
    cases part? with
    | none => rfl
    | some part => exact congrArg some (hfree part rfl).encode_eq
  rw [ofText_eq hscheme, splitTail_text hfront hquery, hread, inQueryOf_eq foreign.web foreign.file,
    unchanged hquery, unchanged hfragment]
  rfl

/-- **A URL is read back as it was written.** -/
theorem ofText_text (foreign : Foreign u.scheme) (h : Settled u) : ofText u.text = .ok u := by
  obtain ⟨⟨a, ha, hauthority⟩, hpath, hquery, hfragment⟩ := h
  have hbefore : u.beforePath = '/' :: '/' :: a.text := by
    rw [beforePath, ha]
  have free : Free isMargin u.text := by
    have parts := mem_parts_of_isMargin
    have hserver := hauthority.free.mono fun c hc => (parts c hc).1
    have hpath' := hpath.free.mono fun c hc => (parts c hc).2.1
    have hquery' := fun query hq => (hquery query hq).mono fun c hc => (parts c hc).2.2.1
    have hfragment' := fun fragment hf => (hfragment fragment hf).mono fun c hc => (parts c hc).2.2.2
    have slash : isMargin '/' = false := by decide
    rw [text_eq_marked, hbefore]
    simp only [Percent.free_append, Percent.free_cons, List.cons_append]
    exact ⟨foreign.written.1, by decide, slash, slash, ⟨⟨hserver, hpath'⟩,
      free_marked (by decide) hquery'⟩, free_marked (by decide) hfragment'⟩
  have front : Free isMark (u.beforePath ++ u.path) := by
    rw [hbefore]
    simp only [Percent.free_append, Percent.free_cons, List.cons_append]
    exact ⟨by decide, by decide, hauthority.free.mono fun c hc => (mem_parts_of_isMark c hc).1,
      hpath.free.mono fun c hc => (mem_parts_of_isMark c hc).2⟩
  refine ofText_text_of_front foreign (clean_of_free free) front (fun ends => ?_) hquery hfragment
  rw [hbefore, ha]
  exact readHierarchy_text foreign.web foreign.file hauthority hpath

end ReadBack

end SqlMapper.Url
