import SqlMapper.Proofs.Url.Reader

/-!
# Passwords in URLs

The user information of a URL names a user and, after its first colon, a password. It ends at the last at
sign of the server, so that a password may hold colons and at signs. With another password in its place, a
text is read as the same URL with another password.

* `SameButPassword`: URLs that are equal except for a password.
* `AroundPassword`: what stands around a password in a text.
* `readAuthority_user`: what is read before a server.
* `ofText_otherPassword`: a text with another password.
-/

namespace SqlMapper.Url

open Percent (Free inUserInfo)

/-! ## Specification -/

/-- Two URLs that are equal except for a password that is not empty. -/
def SameButPassword (u u' : Url) : Prop :=
  ∃ a password', u.authority? = some a ∧ a.password ≠ [] ∧ password' ≠ [] ∧
    u' = { u with authority? := some { a with password := password' } }

/-- Whether a character ends the server of a URL. -/
def endsServer (c : Char) : Bool := c == '/' || isMark c

/-- A text of a URL without its password: the scheme, the user, and what follows the at sign. Where there
    are several at signs, the one before `rest` is the last of the server. -/
structure AroundPassword where
  scheme : List Char
  user : List Char
  rest : List Char
  schemeEnds : ':' ∉ scheme
  userEnds : ':' ∉ user
  inside : Free endsServer user
  lastAt : '@' ∉ rest.takeWhile (!endsServer ·)

/-- A password in the text of a URL: anything that does not end the server. Line breaks and tabs alone are
    none, since they are taken out of the text. -/
structure IsPassword (password : List Char) : Prop where
  inside : Free endsServer password
  visible : ∃ c ∈ password, isBreak c = false

/-- The text with a password. -/
def AroundPassword.text (w : AroundPassword) (password : List Char) : List Char :=
  w.scheme ++ ':' :: ('/' :: '/' :: w.user ++ ':' :: password) ++ '@' :: w.rest

variable {scheme user password password' server s rest : List Char} {u : Url}

/-! ## The server -/

/-- Before a server, the first colon ends the user, and the rest is the password. -/
theorem readAuthority_user {ends : Bool} {a : Authority} (hcolon : ':' ∉ user) (hat : '@' ∉ server)
    (hne : password ≠ []) :
    readAuthority scheme ends (user ++ ':' :: password ++ '@' :: server) = .ok (a, rest) ↔
      ∃ host port?, readServer scheme server = .ok ((host, port?), rest) ∧ host ≠ [] ∧
        a = ⟨Percent.encode inUserInfo user, Percent.encode inUserInfo password, host, port?⟩ := by
  have hwritten := Percent.encode_ne_nil inUserInfo hne
  have huser : readUser (user ++ ':' :: password) =
      (Percent.encode inUserInfo user, Percent.encode inUserInfo password) := by
    rw [readUser, Text.splitAtFirst_append hcolon]
    rfl
  -- The reader takes an at sign with nothing before it apart, so the first character is named.
  obtain ⟨c, cs, hcs⟩ : ∃ c cs, user ++ ':' :: password = c :: cs :=
    List.exists_cons_of_ne_nil (List.append_ne_nil_of_right_ne_nil _ (List.cons_ne_nil _ _))
  rw [hcs] at huser ⊢
  simp only [readAuthority, Text.splitAtLast?_append hat, huser]
  constructor
  · intro h
    obtain ⟨⟨⟨host, port?⟩, rest'⟩, hserver, h⟩ := exists_of_bind_eq_ok h
    dsimp only at h
    split at h
    · cases h
    next named =>
    cases h
    exact ⟨host, port?, hserver, fun hnil => named ⟨hnil, .inr hwritten⟩, rfl⟩
  · rintro ⟨host, port?, hserver, hhost, rfl⟩
    rw [hserver]
    exact if_neg fun named => hhost named.1

/-! ## Where the server ends -/

/-- The server ends at the first slash before query and fragment. -/
theorem takeWhile_splitTail (s : List Char) :
    (splitTail s).1.takeWhile (· ≠ '/') = s.takeWhile (!endsServer ·) := by
  show ((s.takeWhile (· != '#')).takeWhile (· != '?')).takeWhile (· ≠ '/') = _
  rw [List.takeWhile_takeWhile, List.takeWhile_takeWhile]
  congr 1
  funext c
  rw [Bool.eq_iff_iff]
  simp [endsServer, isMark, and_assoc]

theorem endsServer_of_isBreak {c : Char} (h : isBreak c = true) : endsServer c = false := by
  simp only [isBreak, Bool.or_eq_true, beq_iff_eq] at h
  rcases h with (rfl | rfl) | rfl <;> decide

/-- What is taken off the end of a text does not lengthen the server. -/
theorem mem_takeWhile_cleanEnd {c : Char} (h : c ∈ (cleanEnd rest).takeWhile (!endsServer ·)) :
    c ∈ rest.takeWhile (!endsServer ·) := by
  have skipped : (fun c => !(!isBreak c) || !endsServer c) = fun c => !endsServer c := by
    funext c
    cases hbreak : isBreak c with
    | false => rfl
    | true => simp [endsServer_of_isBreak hbreak]
  obtain ⟨back, hback⟩ : (rest.reverse.dropWhile isMargin).reverse <+: rest :=
    List.reverse_suffix.mp (by simpa using List.dropWhile_suffix isMargin)
  rw [cleanEnd, unbroken, List.takeWhile_filter, skipped] at h
  rw [← hback, List.takeWhile_append]
  split
  · exact List.mem_append_left _ ((List.takeWhile_prefix _).subset (List.mem_filter.mp h).1)
  · exact (List.mem_filter.mp h).1

/-- Query and fragment begin after user and password. -/
theorem splitTail_user (huser : Free endsServer user) (hpassword : Free endsServer password)
    (rest : List Char) : splitTail ('/' :: '/' :: (user ++ ':' :: password ++ '@' :: rest)) =
      ('/' :: '/' :: (user ++ ':' :: password ++ '@' :: (splitTail rest).1), (splitTail rest).2) := by
  have ends : ∀ c, isMark c = true → endsServer c = true := fun c hc => by simp [endsServer, hc]
  have front : Free isMark ('/' :: '/' :: (user ++ ':' :: password ++ ['@'])) := by
    simp only [Percent.free_append, Percent.free_cons]
    exact ⟨by decide, by decide, ⟨huser.mono ends, by decide, hpassword.mono ends⟩, by decide,
      Percent.free_nil⟩
  simpa using splitTail_append front rest

/-- Server and path of a URL with a password. -/
theorem readHierarchy_user {ends : Bool} {authority? : Option Authority} {path : List Char}
    (hweb : webPort? scheme = none) (hfile : isFile scheme = false) (hcolon : ':' ∉ user)
    (huser : '/' ∉ user) (hpassword : '/' ∉ password) (hne : password ≠ [])
    (hat : '@' ∉ s.takeWhile (· ≠ '/')) :
    readHierarchy scheme ends ('/' :: '/' :: (user ++ ':' :: password ++ '@' :: s)) =
        .ok (authority?, path) ↔
      ∃ host port? rest, readServer scheme (s.takeWhile (· ≠ '/')) = .ok ((host, port?), rest) ∧
        host ≠ [] ∧ path = pathAfterServer false (rest ++ s.dropWhile (· ≠ '/')) ∧
        authority? =
          some ⟨Percent.encode inUserInfo user, Percent.encode inUserInfo password, host, port?⟩ := by
  have inside : ∀ c ∈ user ++ ':' :: password ++ ['@'], decide (c ≠ '/') = true := by
    intro c hc
    simp only [List.append_assoc, List.cons_append, List.mem_append, List.mem_cons] at hc
    rw [decide_eq_true_eq]
    rintro rfl
    simp [huser, hpassword] at hc
  rw [readHierarchy_server hweb hfile, List.append_cons, List.takeWhile_append_of_pos inside,
    List.dropWhile_append_of_pos inside, List.append_assoc, List.singleton_append]
  constructor
  · intro h
    obtain ⟨⟨a, rest⟩, ha, h⟩ := exists_of_bind_eq_ok h
    obtain ⟨host, port?, hserver, hhost, rfl⟩ := (readAuthority_user hcolon hat hne).mp ha
    cases h
    exact ⟨host, port?, rest, hserver, hhost, rfl, rfl⟩
  · rintro ⟨host, port?, rest, hserver, hhost, rfl, rfl⟩
    rw [(readAuthority_user hcolon hat hne).mpr ⟨host, port?, hserver, hhost, rfl⟩]
    rfl

/-! ## Another password -/

variable (w : AroundPassword)

/-- The text after the scheme, as it is read: without line breaks and tabs. -/
theorem AroundPassword.clean_text (password : List Char) : clean (w.text password) =
    cleanStart w.scheme ++ ':' :: '/' :: '/' ::
      (unbroken w.user ++ ':' :: unbroken password ++ '@' :: cleanEnd w.rest) := by
  rw [text, clean_append (by decide) (by decide)]
  simp [unbroken, isBreak]

/-- The scheme ends at the first colon, whatever follows. -/
theorem splitScheme?_eq_some_iff {name : List Char} (hcolon : ':' ∉ scheme) :
    splitScheme? (scheme ++ ':' :: s) = some (name, rest) ↔
      splitScheme? (scheme ++ [':']) = some (name, []) ∧ s = rest := by
  simp only [splitScheme?, Text.splitAtFirst_append hcolon]
  split <;> simp [and_comm]

/-- The parts of a URL that is read, given the text that is left of it. -/
theorem ofText_iff_of_clean (hcolon : ':' ∉ scheme) (hclean : clean s = scheme ++ ':' :: rest) :
    ofText s = .ok u ↔ splitScheme? (scheme ++ [':']) = some (u.scheme, []) ∧
      readHierarchy u.scheme ((splitTail rest).2.2.isNone && (splitTail rest).2.1.isNone)
        (splitTail rest).1 = .ok (u.authority?, u.path) ∧
      u.query? = (splitTail rest).2.1.map (Percent.encode (inQueryOf u.scheme)) ∧
      u.fragment? = (splitTail rest).2.2.map (Percent.encode Percent.inFragment) := by
  rw [ofText_eq_ok_iff, hclean]
  constructor
  · rintro ⟨rest', hsplit, hparts⟩
    obtain ⟨hscheme, rfl⟩ := (splitScheme?_eq_some_iff hcolon).mp hsplit
    exact ⟨hscheme, hparts⟩
  · rintro ⟨hscheme, hparts⟩
    exact ⟨rest, (splitScheme?_eq_some_iff hcolon).mpr ⟨hscheme, rfl⟩, hparts⟩

theorem IsPassword.unbroken_ne_nil (hp : IsPassword password) : unbroken password ≠ [] := by
  obtain ⟨c, hc, hbreak⟩ := hp.visible
  exact List.ne_nil_of_mem (List.mem_filter.mpr ⟨hc, by rw [hbreak]; rfl⟩)

/-- The parts of a URL that is read from a text with a password, which decides about the password alone. -/
theorem AroundPassword.ofText_text_iff (hp : IsPassword password) (hweb : webPort? u.scheme = none)
    (hfile : isFile u.scheme = false) : ofText (w.text password) = .ok u ↔
      splitScheme? (cleanStart w.scheme ++ [':']) = some (u.scheme, []) ∧
      (∃ host port? rest,
        readServer u.scheme ((cleanEnd w.rest).takeWhile (!endsServer ·)) = .ok ((host, port?), rest) ∧
        host ≠ [] ∧
        u.path = pathAfterServer false (rest ++ (splitTail (cleanEnd w.rest)).1.dropWhile (· ≠ '/')) ∧
        u.authority? = some ⟨Percent.encode inUserInfo (unbroken w.user),
          Percent.encode inUserInfo (unbroken password), host, port?⟩) ∧
      u.query? = (splitTail (cleanEnd w.rest)).2.1.map (Percent.encode (inQueryOf u.scheme)) ∧
      u.fragment? = (splitTail (cleanEnd w.rest)).2.2.map (Percent.encode Percent.inFragment) := by
  have huser : Free endsServer (unbroken w.user) := fun c hc => w.inside c (mem_of_mem_unbroken hc)
  have hpassword : Free endsServer (unbroken password) := fun c hc => hp.inside c (mem_of_mem_unbroken hc)
  have hcolon : ':' ∉ unbroken w.user := fun hc => w.userEnds (mem_of_mem_unbroken hc)
  have hat : '@' ∉ (splitTail (cleanEnd w.rest)).1.takeWhile (· ≠ '/') := by
    rw [takeWhile_splitTail]
    exact fun hmem => w.lastAt (mem_takeWhile_cleanEnd hmem)
  rw [ofText_iff_of_clean (not_mem_cleanStart w.schemeEnds) (w.clean_text password),
    splitTail_user huser hpassword, readHierarchy_user hweb hfile hcolon (huser.not_mem (by decide))
      (hpassword.not_mem (by decide)) hp.unbroken_ne_nil hat, takeWhile_splitTail]

/-- **Another password.** If a text with a password is read as a URL, so it is with another password, and
    only the password of the URL changes. -/
theorem ofText_otherPassword (hp : IsPassword password) (hp' : IsPassword password')
    (h : ofText (w.text password) = .ok u) (hweb : webPort? u.scheme = none)
    (hfile : isFile u.scheme = false) :
    ∃ u', ofText (w.text password') = .ok u' ∧ SameButPassword u u' := by
  obtain ⟨hscheme, ⟨host, port?, rest, hserver, hhost, hpath, hauthority⟩, hquery, hfragment⟩ :=
    (w.ofText_text_iff hp hweb hfile).mp h
  refine ⟨{ u with authority? := some ⟨Percent.encode inUserInfo (unbroken w.user),
    Percent.encode inUserInfo (unbroken password'), host, port?⟩ }, ?_, ?_⟩
  · refine (w.ofText_text_iff hp' ?_ ?_).mpr
      ⟨hscheme, ⟨host, port?, rest, hserver, hhost, hpath, rfl⟩, hquery, hfragment⟩
    · exact hweb
    · exact hfile
  · exact ⟨_, _, hauthority, Percent.encode_ne_nil _ hp.unbroken_ne_nil,
      Percent.encode_ne_nil _ hp'.unbroken_ne_nil, rfl⟩

end SqlMapper.Url
