import Mathlib.Data.List.TakeWhile
import SqlMapper.Proofs.Text.Split
import SqlMapper.Proofs.Url.Address
import SqlMapper.Url.Reader

/-!
# Servers read back

What stands between the slashes of a URL and its path is read back as it was written: user, host and
port. This is about schemes that are none of the web.

* `HostSettled`, `AuthoritySettled`: hosts and servers as they come out of reading.
* `settled_of_readAuthority`: what is read is settled.
* `readAuthority_text`: what is settled is read back.
-/

namespace SqlMapper.Url

open Percent (Free Spares inUserInfo)

variable {s host after rest : List Char} {scheme : List Char} {port? : Option Nat}

/-- A part that follows another is read only if that could be read. -/
theorem exists_of_bind_eq_ok {ε α β : Type} {x : Except ε α} {f : α → Except ε β} {b : β}
    (h : (x >>= f) = .ok b) : ∃ a, x = .ok a ∧ f a = .ok b := by
  cases x with
  | error e => cases h
  | ok a => exact ⟨a, rfl, h⟩

/-! ## Hosts -/

/-- What does not stand in the name of a host. -/
def inHost (c : Char) : Bool := Percent.control c || Host.isForbidden c

/-- A host as it is written: a name, or an address in brackets. -/
inductive HostSettled : List Char → Prop
  | name {s : List Char} (free : Free inHost s) : HostSettled s
  | address {groups : List Nat} (inRange : Address.InRange groups) :
    HostSettled ('[' :: Address.text groups ++ [']'])

theorem hostSettled_of_ofName (h : Host.ofName s = .ok host) : HostSettled host := by
  unfold Host.ofName at h
  split at h
  case isTrue => cases h
  case isFalse allowed =>
    obtain rfl := Except.ok.inj h
    have free : Free Host.isForbidden s := by
      intro c hc
      rw [← Bool.not_eq_true]
      intro forbidden
      exact allowed (List.any_eq_true.mpr ⟨c, hc, forbidden⟩)
    refine .name fun c hc => ?_
    have control := Percent.spares_parts.1.free_encode s c hc
    have forbidden := free.encode (by decide) Percent.control c hc
    rw [inHost, control, forbidden]
    rfl

theorem hostSettled_of_ofText (h : Host.ofText false s = .ok host) : HostSettled host := by
  unfold Host.ofText at h
  split at h
  · split at h
    · next groups hread =>
      obtain rfl := Except.ok.inj h
      exact .address (Address.inRange_of_read? hread)
    · cases h
  · exact hostSettled_of_ofName h

theorem ofText_of_hostSettled (h : HostSettled host) : Host.ofText false host = .ok host := by
  cases h with
  | name free =>
    have allowed : ¬ host.any Host.isForbidden = true := by
      intro h
      obtain ⟨c, hc, hforbidden⟩ := List.any_eq_true.mp h
      exact free.not_mem (by rw [inHost, hforbidden, Bool.or_true]) hc
    have control : Free Percent.control host := free.mono fun c hc => by rw [inHost, hc, Bool.true_or]
    have named : Host.ofText false host = Host.ofName host := by
      unfold Host.ofText
      split
      · next rest => exact absurd List.mem_cons_self (free.not_mem (c := '[') (by decide))
      · rfl
    rw [named, Host.ofName, if_neg allowed, control.encode_eq]
  | @address groups inRange =>
    have hlast : (Address.text groups ++ [']']).getLast? = some ']' := List.getLast?_concat
    have hread : Address.read? (Address.text groups ++ [']']).dropLast = some groups := by
      rw [List.dropLast_concat, Address.read?_text inRange]
    simp only [Host.ofText, List.cons_append, hlast, hread]

/-- What a host is free of, whether it is a name or an address. -/
theorem HostSettled.free {set : Char → Bool} (h : HostSettled host)
    (hname : ∀ c, set c = true → inHost c = true)
    (haddress : set '[' = false ∧ set ']' = false ∧ set ':' = false ∧
      ∀ m < 16, set (Nat.digitChar m) = false) : Free set host := by
  cases h with
  | name free => exact free.mono hname
  | @address groups inRange =>
    obtain ⟨hopen, hclose, hcolon, hdigit⟩ := haddress
    have inside : Free set (Address.text groups) := by
      intro c hc
      rcases Address.mem_text hc with rfl | ⟨m, hm, rfl⟩
      · exact hcolon
      · exact hdigit m hm
    exact Percent.free_append.mpr ⟨Percent.free_cons.mpr ⟨hopen, inside⟩,
      Percent.free_cons.mpr ⟨hclose, Percent.free_nil⟩⟩

/-! ## The end of a host -/

/-- Characters that are part of the host: no brackets, and colons only inside of brackets. -/
theorem splitHost_append {inside : Bool} {w : List Char}
    (h : ∀ c ∈ w, c ≠ '[' ∧ c ≠ ']' ∧ (inside = false → c ≠ ':')) (rest : List Char) :
    splitHost inside (w ++ rest) = (w ++ (splitHost inside rest).1, (splitHost inside rest).2) := by
  induction w with
  | nil => rfl
  | cons c w ih =>
    obtain ⟨⟨hopen, hclose, hcolon⟩, hw⟩ := List.forall_mem_cons.mp h
    have inHost : ¬ (c = ':' ∧ (!inside) = true) := by
      rintro ⟨hc, hinside⟩
      exact hcolon (by simpa using hinside) hc
    rw [List.cons_append, splitHost, if_neg inHost, if_neg hopen, if_neg hclose, ih hw]
    rfl

/-- A host ends where nothing follows, or at a colon. -/
theorem splitHost_of_hostSettled (h : HostSettled host) (hafter : splitHost false after = ([], after)) :
    splitHost false (host ++ after) = (host, after) := by
  cases h with
  | name free =>
    have plain : ∀ c ∈ host, c ≠ '[' ∧ c ≠ ']' ∧ (false = false → c ≠ ':') := by
      intro c hc
      refine ⟨?_, ?_, fun _ => ?_⟩
      all_goals
        rintro rfl
        exact free.not_mem (by decide) hc
    rw [splitHost_append plain, hafter, List.append_nil]
  | @address groups inRange =>
    have plain : ∀ c ∈ Address.text groups, c ≠ '[' ∧ c ≠ ']' ∧ (true = false → c ≠ ':') := by
      intro c hc
      rcases Address.mem_text hc with rfl | ⟨m, hm, rfl⟩
      · decide
      · have digits : ∀ m < 16, Nat.digitChar m ≠ '[' ∧ Nat.digitChar m ≠ ']' ∧
            (true = false → Nat.digitChar m ≠ ':') := by decide
        exact digits m hm
    have close : splitHost true (']' :: after) = ([']'], after) := by
      rw [splitHost, if_neg (by decide), if_neg (by decide), if_pos rfl, hafter]
    rw [List.cons_append, List.cons_append, splitHost, if_neg (by decide), if_pos rfl, List.append_assoc,
      List.singleton_append, splitHost_append plain, close]

/-! ## Ports -/

/-- A port after its colon. -/
def portText : Option Nat → List Char
  | some port => ':' :: Number.decimal port
  | none => []

theorem readPort_lt {standard? : Option Nat} (h : readPort standard? s = .ok (port?, rest)) :
    ∀ port ∈ port?, port < 65536 := by
  simp only [readPort] at h
  split at h
  · cases h
  next fits =>
  rw [not_or] at fits
  split at h
  · obtain ⟨rfl, -⟩ := Prod.mk.inj (Except.ok.inj h)
    exact fun port hport => by cases hport
  · obtain ⟨rfl, -⟩ := Prod.mk.inj (Except.ok.inj h)
    rintro port ⟨⟩
    exact Nat.lt_of_not_le fits.1

theorem readPort_decimal {port : Nat} (h : port < 65536) :
    readPort none (Number.decimal port) = .ok (some port, []) := by
  have digits : ∀ c ∈ Number.decimal port, c.isDigit = true := fun c => Number.isDigit_of_mem_decimal
  have taken := List.takeWhile_eq_self_iff.mpr digits
  have dropped := List.dropWhile_eq_nil_iff.mpr digits
  simp [readPort, taken, dropped, Number.decimal_ne_nil, h]

/-! ## Host and port -/

theorem readServer_eq (hweb : webPort? scheme = none) (s : List Char) :
    readServer scheme s = (do
      let host ← Host.ofText false (splitHost false s).1
      match (splitHost false s).2 with
      | [] => .ok ((host, none), [])
      | _ :: after =>
        if host = [] then .error .emptyHost
        else do
          let (port?, rest) ← readPort none after
          return ((host, port?), rest)) := by
  simp [readServer, isWeb, hweb]
  rfl

theorem settled_of_readServer (hweb : webPort? scheme = none)
    (h : readServer scheme s = .ok ((host, port?), rest)) :
    HostSettled host ∧ (∀ port ∈ port?, port < 65536) ∧ (host = [] → port? = none) := by
  rw [readServer_eq hweb] at h
  obtain ⟨host', hhost, h⟩ := exists_of_bind_eq_ok h
  have settled := hostSettled_of_ofText hhost
  split at h
  · cases h
    exact ⟨settled, nofun, fun _ => rfl⟩
  · split at h
    · cases h
    next named =>
    obtain ⟨⟨port?', rest'⟩, hport, h⟩ := exists_of_bind_eq_ok h
    cases h
    exact ⟨settled, readPort_lt hport, fun hnil => absurd hnil named⟩

theorem readServer_text (hweb : webPort? scheme = none) (hhost : HostSettled host)
    (hport : ∀ port ∈ port?, port < 65536) (named : host = [] → port? = none) :
    readServer scheme (host ++ portText port?) = .ok ((host, port?), []) := by
  have hafter : splitHost false (portText port?) = ([], portText port?) := by
    cases port? with
    | none => rfl
    | some port => rfl
  rw [readServer_eq hweb, splitHost_of_hostSettled hhost hafter, ofText_of_hostSettled hhost]
  cases port? with
  | none => rfl
  | some port =>
    have hne : host ≠ [] := by
      intro hnil
      cases named hnil
    show (if host = [] then .error .emptyHost else do
      let (port?, rest) ← readPort none (Number.decimal port)
      return ((host, port?), rest)) = _
    rw [if_neg hne, readPort_decimal (hport port rfl)]
    rfl

/-! ## User and server -/

/-- A server as it is written. Without a host there is neither user nor port. -/
structure AuthoritySettled (a : Authority) : Prop where
  username : Free inUserInfo a.username
  password : Free inUserInfo a.password
  host : HostSettled a.host
  port : ∀ port ∈ a.port?, port < 65536
  named : a.host = [] → a.username = [] ∧ a.password = [] ∧ a.port? = none

/-- A server without a user. -/
theorem settled_unnamed (hweb : webPort? scheme = none)
    (h : readServer scheme s = .ok ((host, port?), rest)) : AuthoritySettled ⟨[], [], host, port?⟩ := by
  obtain ⟨hhost, hport, named⟩ := settled_of_readServer hweb h
  exact ⟨Percent.free_nil, Percent.free_nil, hhost, hport, fun hnil => ⟨rfl, rfl, named hnil⟩⟩

theorem settled_of_readAuthority {ends : Bool} {a : Authority} (hweb : webPort? scheme = none)
    (h : readAuthority scheme ends s = .ok (a, rest)) : AuthoritySettled a := by
  have spares := Percent.spares_parts.2.2.2.2
  unfold readAuthority at h
  split at h
  · obtain ⟨⟨⟨host, port?⟩, rest'⟩, hserver, h⟩ := exists_of_bind_eq_ok h
    cases h
    exact settled_unnamed hweb hserver
  · split at h
    · cases h
    · obtain ⟨⟨⟨host, port?⟩, rest'⟩, hserver, h⟩ := exists_of_bind_eq_ok h
      cases h
      exact settled_unnamed hweb hserver
  · next user server _ _ =>
    obtain ⟨⟨⟨host, port?⟩, rest'⟩, hserver, h⟩ := exists_of_bind_eq_ok h
    obtain ⟨hhost, hport, named⟩ := settled_of_readServer hweb hserver
    dsimp only at h
    split at h
    · cases h
    next noUser =>
    cases h
    refine ⟨spares.free_encode _, spares.free_encode _, hhost, hport, fun hnil => ?_⟩
    obtain ⟨husername, hpassword⟩ := not_or.mp fun named => noUser ⟨hnil, named⟩
    exact ⟨Decidable.not_not.mp husername, Decidable.not_not.mp hpassword, named hnil⟩

/-- A password after its colon. -/
def passwordText (password : List Char) : List Char := if password = [] then [] else ':' :: password

/-- The characters that end a server, and those that are written nowhere in a URL. -/
def isBoundary (c : Char) : Bool := Percent.control c || [' ', '#', '/', '?'].contains c

section Settled

variable {a : Authority}

theorem readUser_text {username password : List Char} (husername : Free inUserInfo username)
    (hpassword : Free inUserInfo password) :
    readUser (username ++ passwordText password) = (username, password) := by
  have noColon : ':' ∉ username := husername.not_mem (by decide)
  by_cases hnil : password = []
  · rw [passwordText, if_pos hnil, List.append_nil, readUser, Text.splitAtFirst_of_not_mem noColon]
    show (Percent.encode inUserInfo username, Percent.encode inUserInfo []) = _
    rw [husername.encode_eq, hnil]
    rfl
  · rw [passwordText, if_neg hnil, readUser, Text.splitAtFirst_append noColon]
    show (Percent.encode inUserInfo username, Percent.encode inUserInfo password) = _
    rw [husername.encode_eq, hpassword.encode_eq]

theorem text_eq (a : Authority) : a.text =
    (if a.username = [] ∧ passwordText a.password = [] then []
      else a.username ++ passwordText a.password ++ ['@']) ++ (a.host ++ portText a.port?) := by
  rw [Authority.text, List.append_assoc]
  cases a.port? <;> rfl

theorem free_portText {set : Char → Bool} (hcolon : set ':' = false)
    (hdigit : ∀ m < 10, set (Nat.digitChar m) = false) : Free set (portText port?) := by
  cases port? with
  | none => exact Percent.free_nil
  | some port =>
    refine Percent.free_cons.mpr ⟨hcolon, fun c hc => ?_⟩
    obtain ⟨m, hm, rfl⟩ := Address.mem_toDigits (by decide) hc
    exact hdigit m hm

/-- Host and port hold nothing that would end a server. -/
theorem free_hostPort {set : Char → Bool} (hhost : HostSettled host)
    (hname : ∀ c, set c = true → inHost c = true)
    (haddress : set '[' = false ∧ set ']' = false ∧ set ':' = false ∧
      ∀ m < 16, set (Nat.digitChar m) = false) : Free set (host ++ portText port?) := by
  have hport : Free set (portText port?) :=
    free_portText haddress.2.2.1 fun m hm => haddress.2.2.2 m (Nat.lt_trans hm (by decide))
  exact Percent.free_append.mpr ⟨hhost.free hname haddress, hport⟩

theorem inHost_of_isBoundary {c : Char} (h : isBoundary c = true) : inHost c = true := by
  rw [isBoundary, Bool.or_eq_true] at h
  rcases h with h | h
  · rw [inHost, h, Bool.true_or]
  · have listed : [' ', '#', '/', '?'].all inHost = true := by decide
    exact List.all_eq_true.mp listed c (List.contains_iff_mem.mp h)

theorem inUserInfo_of_isBoundary {c : Char} (h : isBoundary c = true) : inUserInfo c = true := by
  rw [isBoundary, Bool.or_eq_true] at h
  rcases h with h | h
  · simp [inUserInfo, Percent.inPath, Percent.inFragment, h]
  · have listed : [' ', '#', '/', '?'].all inUserInfo = true := by decide
    exact List.all_eq_true.mp listed c (List.contains_iff_mem.mp h)

/-- A server holds nothing that would end it, or would have to be encoded. -/
theorem AuthoritySettled.free (h : AuthoritySettled a) : Free isBoundary a.text := by
  have hpassword : Free isBoundary (passwordText a.password) := by
    unfold passwordText
    split
    · exact Percent.free_nil
    · exact Percent.free_cons.mpr ⟨by decide, h.password.mono fun c hc => inUserInfo_of_isBoundary hc⟩
  have husername : Free isBoundary a.username := h.username.mono fun c hc => inUserInfo_of_isBoundary hc
  have hserver : Free isBoundary (a.host ++ portText a.port?) :=
    free_hostPort h.host (fun c hc => inHost_of_isBoundary hc) (by decide)
  rw [text_eq]
  refine Percent.free_append.mpr ⟨?_, hserver⟩
  split
  · exact Percent.free_nil
  · exact Percent.free_append.mpr
      ⟨Percent.free_append.mpr ⟨husername, hpassword⟩, Percent.free_cons.mpr ⟨by decide, Percent.free_nil⟩⟩

/-- **A server is read back as it was written.** -/
theorem readAuthority_text {ends : Bool} (hweb : webPort? scheme = none) (h : AuthoritySettled a) :
    readAuthority scheme ends a.text = .ok (a, []) := by
  have server := readServer_text hweb h.host h.port fun hnil => (h.named hnil).2.2
  have isAt : ∀ c : Char, (c == '@') = true → inHost c = true := by
    intro c hc
    rw [beq_iff_eq.mp hc]
    decide
  have noAt : '@' ∉ a.host ++ portText a.port? := (free_hostPort h.host isAt (by decide)).not_mem rfl
  rw [text_eq]
  by_cases unnamed : a.username = [] ∧ passwordText a.password = []
  · rw [if_pos unnamed, List.nil_append]
    have noPassword : a.password = [] := by
      have hnil := unnamed.2
      unfold passwordText at hnil
      split at hnil
      · assumption
      · cases hnil
    simp only [readAuthority, Text.splitAtLast?_of_not_mem noAt, server]
    obtain ⟨username, password, host, port?⟩ := a
    obtain rfl := unnamed.1
    obtain rfl := noPassword
    rfl
  · have user := readUser_text h.username h.password
    have hne : a.username ++ passwordText a.password ≠ [] := by
      rw [Ne, List.append_eq_nil_iff]
      exact unnamed
    have hhost : a.host ≠ [] := by
      intro hnil
      obtain ⟨husername, hpassword, -⟩ := h.named hnil
      exact unnamed ⟨husername, if_pos hpassword⟩
    obtain ⟨c, cs, hcs⟩ := List.exists_cons_of_ne_nil hne
    rw [hcs] at user
    have here : ¬ (a.host = [] ∧ (a.username ≠ [] ∨ a.password ≠ [])) := fun hnil => hhost hnil.1
    rw [if_neg unnamed, List.append_assoc, List.singleton_append, hcs]
    simp only [readAuthority, Text.splitAtLast?_append noAt, server, user]
    exact if_neg here

end Settled

end SqlMapper.Url
