import SqlMapper.Proofs.Config.QueryOptions
import SqlMapper.Proofs.Url.Password

/-!
# Connection strings that may be shown

In the text of a URL the first at sign after the scheme ends the user information, and the first colon in
it the user's name, since neither character is written in a name or a password. So four stars come in the
place of the whole password, and of nothing else: the text that is shown is the same for every password.

* `DifferInPassword`: two texts of the same URL, except for its password.
* `MasksPassword`: a configuration that is shown with stars for its password alone.
* `maskPassword_withPassword`: where the stars come.
* `masked_hides_password`: what is shown says nothing about the password.
-/

namespace SqlMapper.DatabaseConfig

open Percent (Free inUserInfo)
open Url (AroundPassword IsPassword SameButPassword)

variable {text text' : String} {url url' : Url} {a : Authority} {c c' : DatabaseConfig}
  {scheme : List Char}

/-! ## Specification -/

/-- Two texts of a URL that differ in a password that is not empty: the password is written as it is, with
    colons and at signs too, or the URLs that are read differ in nothing else. -/
inductive DifferInPassword : String → String → Prop
  | written (w : AroundPassword) {password password' : List Char} (hp : IsPassword password)
      (hp' : IsPassword password') :
      DifferInPassword (String.ofList (w.text password)) (String.ofList (w.text password'))
  | read {text text' : String} {url url' : Url} (hurl : Url.ofText text.toList = .ok url)
      (hurl' : Url.ofText text'.toList = .ok url') (same : SameButPassword url url') :
      DifferInPassword text text'

/-- The text of a URL with something in the place of its password. -/
def withPassword (u : Url) (a : Authority) (password after : List Char) : List Char :=
  u.scheme ++ "://".toList ++ a.username ++ ':' :: password ++ '@' :: a.host ++ after

/-- The text that is shown of a configuration is its connection string with four stars for the password:
    the scheme, the user's name, the host, and all that follows are kept. -/
def MasksPassword (c : DatabaseConfig) : Prop :=
  ∃ u a after, Url.ofText c.connectionString.toList = .ok u ∧ u.authority? = some a ∧
    c.connectionString = String.ofList (withPassword u a a.password after) ∧
    c.masked = String.ofList (withPassword u a "****".toList after)

/-! ## Where the stars come -/

theorem splitAtServer?_append (h : ':' ∉ scheme) (s : List Char) :
    splitAtServer? (scheme ++ "://".toList ++ s) = some (scheme ++ "://".toList, s) := by
  induction scheme with
  | nil => rfl
  | cons c scheme ih =>
    rw [List.mem_cons, not_or] at h
    have hne : c ≠ ':' := Ne.symm h.1
    have rest := ih h.2
    rw [List.cons_append, List.cons_append, splitAtServer?, rest]
    · rfl
    · rintro _ rfl
      exact absurd rfl hne

/-- Neither at signs nor colons are written in a name or a password, so both are found where they part
    user, password and host. -/
theorem maskPassword_withPassword {password : List Char} (hscheme : ':' ∉ url.scheme)
    (husername : Free inUserInfo a.username) (hpassword : Free inUserInfo password) (after : List Char) :
    maskPassword (String.ofList (withPassword url a password after)) =
      String.ofList (withPassword url a "****".toList after) := by
  have parted : withPassword url a password after = url.scheme ++ "://".toList ++
      (a.username ++ ':' :: password ++ '@' :: (a.host ++ after)) := by
    simp [withPassword]
  have noAt : '@' ∉ a.username ++ ':' :: password := by
    have free : Free (· == '@') (a.username ++ ':' :: password) :=
      Percent.free_append.mpr ⟨husername.mono fun c hc => beq_iff_eq.mp hc ▸ by decide,
        Percent.free_cons.mpr ⟨by decide, hpassword.mono fun c hc => beq_iff_eq.mp hc ▸ by decide⟩⟩
    exact free.not_mem (by decide)
  have noColon : ':' ∉ a.username := husername.not_mem (by decide)
  rw [maskPassword, String.toList_ofList, parted, splitAtServer?_append hscheme]
  dsimp only
  rw [Text.splitAtFirst_append noAt]
  dsimp only
  rw [Text.splitAtFirst_append noColon]
  simp [withPassword]

/-! ## The text that is shown -/

/-- What follows the host of a URL. -/
def afterHost (u : Url) (a : Authority) : List Char :=
  Url.portText a.port? ++ u.path ++ Url.marked '?' u.query? ++ Url.marked '#' u.fragment?

theorem text_eq_withPassword (ha : url.authority? = some a) (hne : a.password ≠ []) :
    url.text = withPassword url a a.password (afterHost url a) := by
  have hpassword : Url.passwordText a.password = ':' :: a.password := if_neg hne
  rw [Url.text_eq_marked, Url.beforePath, ha]
  dsimp only
  rw [Url.text_eq, hpassword, if_neg fun h => List.cons_ne_nil _ _ h.2]
  simp [withPassword, afterHost]

/-- What is shown of a database URL with a password. -/
theorem masked_of_ofUrl (h : ofUrl text = .ok c) (hurl : Url.ofText text.toList = .ok url)
    (ha : url.authority? = some a) (hne : a.password ≠ []) :
    (stored url).authority? = some a ∧ Url.ofText c.connectionString.toList = .ok (stored url) ∧
      c.connectionString =
        String.ofList (withPassword (stored url) a a.password (afterHost (stored url) a)) ∧
      c.masked = String.ofList (withPassword (stored url) a "****".toList (afterHost (stored url) a)) := by
  obtain ⟨url₁, hurl₁, hsupported, hconnection, -⟩ := exists_of_ofUrl h
  obtain rfl : url₁ = url := Except.ok.inj (hurl₁.symm.trans hurl)
  have foreign := foreign_of_isSupported hsupported
  have settled : url₁.Settled :=
    Url.settled_of_ofText hurl foreign.web foreign.file fun hnone => by rw [ha] at hnone; cases hnone
  obtain ⟨a', ha', hsettled⟩ := settled.authority
  obtain rfl : a' = a := Option.some.inj (ha'.symm.trans ha)
  have hstored := stored_eq settled
  have server : (stored url₁).authority? = some a' := by
    rw [hstored]
    exact ha
  have hscheme : ':' ∉ (stored url₁).scheme := by
    rw [hstored]
    exact foreign_mysql.written.2
  have written := congrArg String.ofList (text_eq_withPassword server hne)
  refine ⟨server, ?_, hconnection.trans written, ?_⟩
  · rw [hconnection, String.toList_ofList]
    exact ofText_stored hurl hsupported
  · rw [masked, hconnection, written]
    exact maskPassword_withPassword hscheme hsettled.username hsettled.password _

/-! ## Two passwords -/

/-- The URL for the client has the server of the URL, which decides about nothing else in it. -/
theorem stored_otherServer (ha : url.authority? = some a) (a' : Authority) :
    stored { url with authority? := some a' } = { stored url with authority? := some a' } := by
  have server : { url with authority? := some a' }.authority? = some a' := rfl
  rw [stored_of_server server, stored_of_server ha]
  rfl

/-- A text with another password is read, if the first one is. -/
theorem DifferInPassword.exists_same (h : DifferInPassword text text')
    (hurl : Url.ofText text.toList = .ok url) (hscheme : isSupported url.scheme = true) :
    ∃ url', Url.ofText text'.toList = .ok url' ∧ SameButPassword url url' := by
  cases h with
  | written w hp hp' =>
    have foreign := foreign_of_isSupported hscheme
    rw [String.toList_ofList] at hurl ⊢
    exact Url.ofText_otherPassword w hp hp' hurl foreign.web foreign.file
  | read hurl₁ hurl' same =>
    obtain rfl := Except.ok.inj (hurl₁.symm.trans hurl)
    exact ⟨_, hurl', same⟩

/-- **What is shown says nothing about the password.** Any two database URLs that are accepted, and differ
    in a password that is not empty alone, are shown alike. Both are shown with four stars in the place of
    the password, and otherwise as they are. -/
theorem masked_hides_password (h : DifferInPassword text text') (hc : ofUrl text = .ok c)
    (hc' : ofUrl text' = .ok c') : c.masked = c'.masked ∧ MasksPassword c ∧ MasksPassword c' := by
  obtain ⟨url, hurl, hsupported, -, -⟩ := exists_of_ofUrl hc
  obtain ⟨url', hurl', a, password', ha, hne, hne', rfl⟩ := h.exists_same hurl hsupported
  obtain ⟨server, reread, hconnection, hmasked⟩ := masked_of_ofUrl hc hurl ha hne
  obtain ⟨server', reread', hconnection', hmasked'⟩ := masked_of_ofUrl hc' hurl' rfl hne'
  refine ⟨?_, ⟨_, a, _, reread, server, hconnection, hmasked⟩,
    ⟨_, _, _, reread', server', hconnection', hmasked'⟩⟩
  rw [hmasked, hmasked', stored_otherServer ha]
  rfl

/-- A URL around a password. -/
def aroundPassword : AroundPassword :=
  ⟨"mysql".toList, "u".toList, "h/d?charset=x".toList, by decide, by decide, by decide, by decide⟩

/-- The URL that is read with a password as it is encoded. -/
def encodedUrl (password : String) : Url :=
  ⟨"mysql".toList, some ⟨"u".toList, password.toList, "h".toList, none⟩, "/d".toList,
    some "charset=x".toList, none⟩

theorem ofUrl_encodedUrl {password : String}
    (hurl : Url.ofText text.toList = .ok (encodedUrl password)) :
    ofUrl text = .ok ⟨String.ofList (encodedUrl password).text, some "d", false, .unset⟩ := by
  have hoptions : takeOptions (encodedUrl password).pairs = ([], [("charset", "x")]) := by
    rw [show (encodedUrl password).pairs = [("charset", "x")] from Form.read_write [("charset", "x")]]
    decide
  have hstored : stored (encodedUrl password) = encodedUrl password := by
    rw [stored_of_server rfl, hoptions]
    rfl
  have supported : isSupported (encodedUrl password).scheme = true := by
    show isSupported "mysql".toList = true
    decide
  rw [ofUrl_eq hurl supported (by rw [hoptions]; rfl), hstored, hoptions]
  rfl

theorem isPassword_atSigns : IsPassword "p@s:s".toList := ⟨by decide, 'p', by decide, by decide⟩

theorem isPassword_other : IsPassword "other".toList := ⟨by decide, 'o', by decide, by decide⟩

/-- A password with colons and at signs, and another one. -/
theorem masked_hides_password_atSigns :
    ofUrl "mysql://u:p@s:s@h/d?charset=x" =
        .ok ⟨"mysql://u:p%40s%3As@h/d?charset=x", some "d", false, .unset⟩ ∧
      ofUrl "mysql://u:other@h/d?charset=x" =
        .ok ⟨"mysql://u:other@h/d?charset=x", some "d", false, .unset⟩ ∧
      maskPassword "mysql://u:p%40s%3As@h/d?charset=x" = maskPassword "mysql://u:other@h/d?charset=x" := by
  have first := ofUrl_encodedUrl (show Url.ofText "mysql://u:p@s:s@h/d?charset=x".toList =
    .ok (encodedUrl "p%40s%3As") by decide)
  have second := ofUrl_encodedUrl (show Url.ofText "mysql://u:other@h/d?charset=x".toList =
    .ok (encodedUrl "other") by decide)
  have written : String.ofList (aroundPassword.text "p@s:s".toList) = "mysql://u:p@s:s@h/d?charset=x" ∧
      String.ofList (aroundPassword.text "other".toList) = "mysql://u:other@h/d?charset=x" := by decide
  have differ := DifferInPassword.written aroundPassword isPassword_atSigns isPassword_other
  rw [written.1, written.2] at differ
  exact ⟨first, second, (masked_hides_password differ first second).1⟩

end SqlMapper.DatabaseConfig
