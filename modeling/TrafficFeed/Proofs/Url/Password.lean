import TrafficFeed.Proofs.Url.Target
import TrafficFeed.Url.Password

/-!
# Passwords are set apart

A password is only read in front of a host, and neither it nor the user before it holds anything
that could end it. So it can always be replaced, and nothing else changes in the text of the target.
-/

namespace TrafficFeed.Url

open TrafficFeed.Text

/-! ### Users and passwords -/

/-- A user or a password as it is written: nothing in it has to be encoded. -/
def UserText (t : String) : Prop := ∀ c ∈ t.toList, userSet c = false ∧ c.toNat < 0x80

variable {cs : List Char}

lemma spares_userSet : Spares userSet := isCode_cases (by decide) (by decide)

lemma userText_encode (cs : List Char) : UserText (String.ofList (encode userSet cs)) := by
  intro c hc
  rw [String.toList_ofList] at hc
  exact clean_of_mem_encode spares_userSet hc

/-- A password is what follows the first colon. -/
lemma readUser_of_cons {c : Char} {password : List Char}
    (hcolon : cs.dropWhile (· != ':') = c :: password) (hne : password ≠ []) :
    readUser cs = (String.ofList (encode userSet (cs.takeWhile (· != ':'))),
      some (String.ofList (encode userSet password))) := by
  obtain ⟨d, ds, rfl⟩ := List.exists_cons_of_ne_nil hne
  simp only [readUser, hcolon]

lemma userText_readUser {user : String} {password : Option String}
    (h : readUser cs = (user, password)) :
    UserText user ∧ ∀ p ∈ password, UserText p ∧ p ≠ "" := by
  rcases hcolon : cs.dropWhile (· != ':') with _ | ⟨c, _ | ⟨d, ds⟩⟩
  case nil | cons.nil =>
    simp only [readUser, hcolon, Prod.mk.injEq] at h
    obtain ⟨rfl, rfl⟩ := h
    exact ⟨userText_encode _, by simp⟩
  case cons.cons =>
    rw [readUser_of_cons hcolon (List.cons_ne_nil d ds), Prod.mk.injEq] at h
    obtain ⟨rfl, rfl⟩ := h
    refine ⟨userText_encode _, ?_⟩
    rintro p ⟨⟩
    refine ⟨userText_encode _, fun hempty => ?_⟩
    have hnil := congrArg String.toList hempty
    rw [String.toList_ofList, String.toList_empty, encode_eq_nil] at hnil
    cases hnil

/-- User and password, which the last `@` ends, and what follows. -/
def cutUser (text : List Char) : (String × Option String) × List Char :=
  match splitAtLast? '@' text with
  | some (user, rest) => (readUser user, rest)
  | none => (("", none), text)

lemma userText_cutUser {text rest : List Char} {user : String} {password : Option String}
    (h : cutUser text = ((user, password), rest)) :
    UserText user ∧ ∀ p ∈ password, UserText p ∧ p ≠ "" := by
  unfold cutUser at h
  split at h
  · exact userText_readUser (Prod.mk.inj h).1
  · obtain ⟨rfl, rfl⟩ := Prod.mk.inj (Prod.mk.inj h).1
    exact ⟨by simp [UserText], by simp⟩

variable {scheme : String} {hasTail : Bool}

/-- What is read of an authority once user and password are cut off. -/
lemma readAuthority_eq_cutUser {text after rest : List Char} {user : String}
    {password : Option String}
    (htext : cs.takeWhile (fun c => !isSlash (Kind.ofScheme scheme) c) = text)
    (hafter : cs.dropWhile (fun c => !isSlash (Kind.ofScheme scheme) c) = after)
    (huser : cutUser text = ((user, password), rest)) :
    readAuthority scheme cs hasTail =
      if text = ['@'] ∧ (!after.isEmpty || hasTail) then .error .emptyHost
      else (readHostPort scheme rest).bind fun (host, port, rest) =>
        if host.isNone ∧ (user ≠ "" ∨ password.isSome) then .error .emptyHost
        else .ok (⟨user, password, host, port⟩, rest ++ after) := by
  subst htext hafter
  unfold cutUser at huser
  unfold readAuthority
  cases hsplit : splitAtLast? '@' (cs.takeWhile fun c => !isSlash (Kind.ofScheme scheme) c) with
  | none =>
    simp only [hsplit, Prod.mk.injEq] at huser
    obtain ⟨⟨rfl, rfl⟩, rfl⟩ := huser
    simp only [hsplit]
    rfl
  | some parts =>
    simp only [hsplit, Prod.mk.injEq] at huser
    obtain ⟨hread, rfl⟩ := huser
    simp only [hsplit, hread]
    rfl

/-! ### Reading a password -/

/-- A target with a password, as it is read. -/
structure PasswordOf (u : Url) (a : Authority) (password : String) : Prop where
  authority : u.authority = some a
  holds : a.password = some password
  admitsPassword : u.admitsPassword = true
  userText : UserText a.user
  passwordText : UserText password
  ne_empty : password ≠ ""

variable {u : Url} {a : Authority} {password : String}

/-- A password needs a host behind it. -/
lemma exists_host_of_readAuthority {path : List Char}
    (h : readAuthority scheme cs hasTail = .ok (a, path)) (hpassword : a.password = some password) :
    (∃ host, a.host = some host) ∧ UserText a.user ∧ UserText password ∧ password ≠ "" := by
  rcases huser : cutUser (cs.takeWhile fun c => !isSlash (Kind.ofScheme scheme) c) with
    ⟨⟨user, found⟩, rest⟩
  rw [readAuthority_eq_cutUser rfl rfl huser] at h
  split at h
  · cases h
  · obtain ⟨⟨host, port, rest⟩, -, h⟩ := exists_of_bind h
    dsimp only at h
    split at h
    · cases h
    · next hhost =>
      obtain ⟨rfl, -⟩ := Prod.mk.inj (Except.ok.inj h)
      obtain rfl : found = some password := hpassword
      obtain ⟨hclean, hpasswords⟩ := userText_cutUser huser
      obtain ⟨hpasswordClean, hne⟩ := hpasswords password rfl
      exact ⟨Option.ne_none_iff_exists'.mp (by simpa using hhost), hclean, hpasswordClean, hne⟩

lemma exists_passwordOf_of_readWithAuthority {cut : Cut} (hscheme : Kind.ofScheme scheme ≠ .file)
    (h : readWithAuthority scheme cut cs = .ok u) (hpassword : u.password? = some password) :
    ∃ a, PasswordOf u a password := by
  obtain ⟨⟨a, path⟩, hread, h⟩ := exists_of_bind h
  obtain rfl := Except.ok.inj h
  have holds : a.password = some password := hpassword
  obtain ⟨⟨host, hhost⟩, huser, hclean, hne⟩ :=
    exists_host_of_readAuthority hread holds
  obtain ⟨text, hhostRead⟩ := exists_of_readAuthority hread
  refine ⟨a, rfl, holds, ?_, huser, hclean, hne⟩
  rw [hhost] at hhostRead
  have htext : host.toText ≠ "" := fun hempty =>
    (readHost_toText hhostRead).1.ne_nil (by rw [hempty, String.toList_empty])
  have hfile : scheme ≠ "file" := by
    rintro rfl
    exact hscheme (by decide)
  simp [admitsPassword, hostText, hhost, htext, hfile]

lemma readFile_password? {cut : Cut} (h : readFile cut = .ok u) : u.password? = none := by
  unfold readFile at h
  dsimp only at h
  split at h
  · obtain rfl := Except.ok.inj h
    rfl
  · split at h
    · obtain rfl := Except.ok.inj h
      rfl
    · obtain ⟨⟨host, path⟩, -, h⟩ := exists_of_bind h
      obtain rfl := Except.ok.inj h
      rfl

/-- A password that is read stands before a host, and not within the scheme of files. -/
lemma exists_passwordOf_of_parse {target : String} (h : parse target = .ok u)
    (hpassword : u.password? = some password) : ∃ a, PasswordOf u a password := by
  unfold parse at h
  split at h
  · cases h
  · split at h
    · rw [readFile_password? h] at hpassword
      cases hpassword
    · next hkind => exact exists_passwordOf_of_readWithAuthority (by simp [hkind]) h hpassword
    · next hkind =>
      unfold readOther at h
      split at h
      · exact exists_passwordOf_of_readWithAuthority (by simp [hkind]) h hpassword
      · obtain rfl := Except.ok.inj h
        cases hpassword
      · obtain rfl := Except.ok.inj h
        cases hpassword

/-! ### Replacing a password -/

lemma PasswordOf.setPassword? (h : PasswordOf u a password) (new : String) :
    u.setPassword? new = some { u with authority := some (a.withPassword new) } := by
  rw [Url.setPassword?, if_pos h.admitsPassword, h.authority]
  rfl

/-- Targets that are the same but for a password that each has. -/
inductive SameButPassword : Url → Url → Prop where
  | passwords (scheme user : String) (p q : String) (host : Option Host) (port : Option UInt16)
      (path : String) (query fragment : Option String) :
      SameButPassword ⟨scheme, some ⟨user, some p, host, port⟩, path, query, fragment⟩
        ⟨scheme, some ⟨user, some q, host, port⟩, path, query, fragment⟩

/-- What follows user and password. -/
def behindUser (u : Url) : String :=
  u.hostText ++ ((u.authority.bind (·.port)).map fun p => ":" ++ toString p.toNat).getD "" ++
    u.pathAndQuery ++ ((u.fragment.map ("#" ++ ·)).getD "")

lemma toText_of_password (hauthority : u.authority = some a)
    (hpassword : a.password = some password) :
    u.toText = u.scheme ++ "://" ++ a.user ++ ":" ++ password ++ "@" ++ u.behindUser := by
  have hslashes : (":" : String) ++ "//" = "://" := by decide
  simp only [toText, authorityText, Authority.toText, Authority.userText, behindUser, hostText,
    hauthority, hpassword, Option.bind_some, ← hslashes, String.append_assoc]

end TrafficFeed.Url
