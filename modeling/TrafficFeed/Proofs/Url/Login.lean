import TrafficFeed.Proofs.Url.Password

/-!
# Texts with a password

A password may have any characters but those that end an authority: colons, marks of encoding and
the mark that ends it, too. Whatever it is, the rest of the text is read in the same way.
-/

namespace TrafficFeed.Url

open TrafficFeed.Text

/-- User and password as they stand before a host. -/
def login (user secret : List Char) : List Char := user ++ ':' :: (secret ++ ['@'])

/-- A text with user and password. -/
def loginText (scheme user secret rest : List Char) : String :=
  String.ofList (scheme ++ ':' :: '/' :: '/' :: (login user secret ++ rest))

/-- A text in which no authority ends. -/
def Undivided (kind : Kind) (cs : List Char) : Prop :=
  ∀ c ∈ cs, isSlash kind c = false ∧ c ≠ '?' ∧ c ≠ '#'

/-- A password, not all of whose characters are tabs and line ends. -/
structure Secret (kind : Kind) (secret : List Char) : Prop where
  undivided : Undivided kind secret
  counts : unbroken secret ≠ []

variable {kind : Kind} {cs user secret : List Char}

/-! ### User and password -/

namespace Undivided

lemma unbroken (h : Undivided kind cs) : Undivided kind (unbroken cs) :=
  fun c hc => h c (List.mem_filter.mp hc).1

lemma login (huser : Undivided kind user) (hsecret : Undivided kind secret) :
    Undivided kind (login user secret) := by
  have hcolon : isSlash kind ':' = false ∧ ':' ≠ '?' ∧ ':' ≠ '#' := by
    cases kind <;> decide
  have hat : isSlash kind '@' = false ∧ '@' ≠ '?' ∧ '@' ≠ '#' := by
    cases kind <;> decide
  intro c hc
  simp only [Url.login, List.mem_append, List.mem_cons, List.not_mem_nil, or_false] at hc
  rcases hc with hc | rfl | hc | rfl
  · exact huser c hc
  · exact hcolon
  · exact hsecret c hc
  · exact hat

/-- An authority goes on behind such a text. -/
lemma spans (h : Undivided kind cs) (rest : List Char) :
    (cs ++ rest).takeWhile (fun c => !isSlash kind c) =
      cs ++ rest.takeWhile (fun c => !isSlash kind c) ∧
    (cs ++ rest).dropWhile (fun c => !isSlash kind c) =
      rest.dropWhile (fun c => !isSlash kind c) := by
  have hall : ∀ c ∈ cs, (!isSlash kind c) = true := fun c hc => by simp [(h c hc).1]
  exact ⟨List.takeWhile_append_of_pos hall, List.dropWhile_append_of_pos hall⟩

end Undivided

lemma unbroken_login (user secret rest : List Char) :
    unbroken (login user secret ++ rest) =
      login (unbroken user) (unbroken secret) ++ unbroken rest := by
  have hcolon : isBreak ':' = false := by decide
  have hat : isBreak '@' = false := by decide
  simp [login, unbroken, hcolon, hat]

lemma login_append_ne (user secret rest : List Char) : login user secret ++ rest ≠ ['@'] := by
  intro heq
  have hlength := congrArg List.length heq
  simp only [login, List.length_append, List.length_cons, List.length_nil] at hlength
  omega

/-- The slashes in front of an authority. -/
lemma dropWhile_slashes (h : Undivided kind user) (secret rest : List Char) :
    ('/' :: '/' :: (login user secret ++ rest)).dropWhile (isSlash kind) =
      login user secret ++ rest := by
  have hslash := isSlash_slash kind
  rw [List.dropWhile_cons_of_pos hslash, List.dropWhile_cons_of_pos hslash]
  cases user with
  | nil => exact List.dropWhile_cons_of_neg (by cases kind <;> decide)
  | cons c cs => exact List.dropWhile_cons_of_neg (by simp [(h c List.mem_cons_self).1])

lemma splitAtLast?_append (sep : Char) (cs ds : List Char) :
    splitAtLast? sep (cs ++ sep :: ds) = some
      (match splitAtLast? sep ds with
        | some (before, rest) => (cs ++ sep :: before, rest)
        | none => (cs, ds)) := by
  induction cs with
  | nil =>
    rw [List.nil_append, splitAtLast?]
    cases splitAtLast? sep ds with
    | none => simp
    | some parts => rfl
  | cons c cs ih =>
    rw [List.cons_append, splitAtLast?, ih]
    cases splitAtLast? sep ds <;> rfl

/-- The user that is read, whatever the password: it ends at the first colon, which need not be the
one before the password. -/
def userOf (user : List Char) : String :=
  String.ofList (encode userSet (user.takeWhile (· != ':')))

lemma exists_readUser (user : List Char) (hne : secret ≠ []) :
    ∃ password, readUser (user ++ ':' :: secret) = (userOf user, some password) := by
  have hcut : ∃ c more, (user ++ ':' :: secret).dropWhile (· != ':') = c :: more ∧ more ≠ [] ∧
      (user ++ ':' :: secret).takeWhile (· != ':') = user.takeWhile (· != ':') := by
    induction user with
    | nil => exact ⟨':', secret, rfl, hne, rfl⟩
    | cons c cs ih =>
      by_cases hc : c = ':'
      · exact ⟨':', cs ++ ':' :: secret, by simp [hc], by simp, by simp [hc]⟩
      · simpa [hc] using ih
  obtain ⟨c, more, hdrop, hmore, htake⟩ := hcut
  exact ⟨_, by rw [readUser_of_cons hdrop hmore, htake, userOf]⟩

/-- The text of host and port, which follows the last `@`. -/
def behindAt (cs : List Char) : List Char :=
  match splitAtLast? '@' cs with
  | some (_, rest) => rest
  | none => cs

lemma exists_cutUser (user rest : List Char) (hne : secret ≠ []) :
    ∃ password,
      cutUser (login user secret ++ rest) = ((userOf user, some password), behindAt rest) := by
  have hsplit := splitAtLast?_append '@' (user ++ ':' :: secret) rest
  have hlogin : login user secret ++ rest = user ++ ':' :: secret ++ '@' :: rest := by
    simp [login]
  rw [cutUser, hlogin, hsplit, behindAt]
  cases splitAtLast? '@' rest with
  | none =>
    obtain ⟨password, hread⟩ := exists_readUser user hne
    exact ⟨password, by simp only [hread]⟩
  | some parts =>
    -- The password goes on to an `@` further behind.
    have hlong : secret ++ '@' :: parts.1 ≠ [] := by simp
    obtain ⟨password, hread⟩ := exists_readUser user hlong
    exact ⟨password, by simp only [List.append_assoc, List.cons_append, hread]⟩

/-! ### What follows -/

/-- What is read behind a user and a password. -/
def readBehind (scheme user password : String) (behind : Cut) : Except Error Url :=
  let kind := Kind.ofScheme scheme
  let text := behind.body.takeWhile fun c => !isSlash kind c
  let after := behind.body.dropWhile fun c => !isSlash kind c
  (readHostPort scheme (behindAt text)).bind fun (host, port, rest) =>
    if host.isNone then .error .emptyHost
    else .ok ⟨scheme, some ⟨user, some password, host, port⟩,
      String.ofList (pathAfterAuthority kind (rest ++ after)), behind.queryText kind,
      behind.fragmentText⟩

/-- The password decides neither whether a target is read nor what else it is. -/
lemma readBehind_cases (scheme user : String) (behind : Cut) :
    (∃ fault, ∀ password, readBehind scheme user password behind = .error fault) ∨
      ∀ p q, ∃ u v, readBehind scheme user p behind = .ok u ∧
        readBehind scheme user q behind = .ok v ∧ SameButPassword u v := by
  unfold readBehind
  dsimp only
  cases readHostPort scheme (behindAt (behind.body.takeWhile fun c =>
      !isSlash (Kind.ofScheme scheme) c)) with
  | error fault => exact .inl ⟨fault, fun _ => rfl⟩
  | ok read =>
    obtain ⟨host, port, rest⟩ := read
    cases host with
    | none => exact .inl ⟨.emptyHost, fun _ => rfl⟩
    | some host => exact .inr fun p q => ⟨_, _, rfl, rfl, .passwords ..⟩

lemma exists_readWithAuthority {scheme : String} (huser : Undivided (Kind.ofScheme scheme) user)
    (hsecret : Undivided (Kind.ofScheme scheme) secret) (hne : secret ≠ []) (body : List Char)
    (behind : Cut) : ∃ password, readWithAuthority scheme { behind with body := body }
        (login user secret ++ behind.body) =
      readBehind scheme (userOf user) password behind := by
  obtain ⟨htake, hdrop⟩ := (huser.login hsecret).spans behind.body
  obtain ⟨password, hcut⟩ := exists_cutUser user
    (behind.body.takeWhile fun c => !isSlash (Kind.ofScheme scheme) c) hne
  refine ⟨password, ?_⟩
  rw [readWithAuthority, readBehind, readAuthority_eq_cutUser htake hdrop hcut,
    if_neg fun h => login_append_ne _ _ _ h.1]
  cases readHostPort scheme (behindAt (behind.body.takeWhile fun c =>
      !isSlash (Kind.ofScheme scheme) c)) with
  | error fault => rfl
  | ok read =>
    obtain ⟨host, port, rest⟩ := read
    cases host <;> simp [Except.bind, bind, Cut.queryText, Cut.fragmentText]

/-! ### Targets -/

/-- Blanks only go from the end of what follows a visible character. -/
lemma trimmed_append {c d : Char} (hc : 0x20 < c.toNat) (hd : 0x20 < d.toNat)
    (front rest : List Char) : trimmed (c :: front ++ d :: rest) =
      c :: front ++ d :: (rest.reverse.dropWhile fun c => decide (c.toNat ≤ 0x20)).reverse := by
  have hstart : (c :: front ++ d :: rest).dropWhile (fun c => decide (c.toNat ≤ 0x20)) =
      c :: front ++ d :: rest :=
    List.dropWhile_cons_of_neg (by simpa using hc)
  have hend : (d :: (c :: front).reverse).dropWhile (fun c => decide (c.toNat ≤ 0x20)) =
      d :: (c :: front).reverse :=
    List.dropWhile_cons_of_neg (by simpa using hd)
  have hreverse : (c :: front ++ d :: rest).reverse =
      rest.reverse ++ d :: (c :: front).reverse := by
    simp
  rw [trimmed, trimWhere, hstart, hreverse, List.dropWhile_append, hend]
  split
  · next hempty => simp [List.isEmpty_iff.mp hempty]
  · simp

lemma cutTail_append (h : ∀ c ∈ cs, c ≠ '#' ∧ c ≠ '?') (rest : List Char) :
    cutTail (cs ++ rest) = { cutTail rest with body := cs ++ (cutTail rest).body } := by
  have hhash : ∀ c ∈ cs, (c != '#') = true := fun c hc => by simpa using (h c hc).1
  have hmark : ∀ c ∈ cs, (c != '?') = true := fun c hc => by simpa using (h c hc).2
  simp only [cutTail, List.takeWhile_append_of_pos hhash, List.dropWhile_append_of_pos hhash,
    List.takeWhile_append_of_pos hmark, List.dropWhile_append_of_pos hmark]

/-- Query and fragment are cut off behind user and password. -/
lemma cutTail_login (huser : Undivided kind user) (hsecret : Undivided kind secret)
    (rest : List Char) : cutTail ('/' :: '/' :: (login user secret ++ rest)) =
      { cutTail rest with
        body := '/' :: '/' :: (login user secret ++ (cutTail rest).body) } := by
  have hfront : ∀ c ∈ '/' :: '/' :: login user secret, c ≠ '#' ∧ c ≠ '?' := by
    intro c hc
    rw [List.mem_cons, List.mem_cons] at hc
    rcases hc with rfl | rfl | hc
    · decide
    · decide
    · have hall := huser.login hsecret c hc
      exact ⟨hall.2.2, hall.2.1⟩
  exact cutTail_append hfront rest

section

variable {scheme : List Char} (hscheme : SchemeText scheme)
  (hfile : Kind.ofScheme (String.ofList scheme) ≠ .file)
  (huser : Undivided (Kind.ofScheme (String.ofList scheme)) user)

include hscheme hfile huser

/-- What is read of a text with a password depends on it in no other place. -/
lemma exists_parse_loginText (rest : List Char) :
    ∃ name behind, ∀ secret, Secret (Kind.ofScheme (String.ofList scheme)) secret →
      ∃ password, parse (loginText scheme user secret rest) =
        readBehind (String.ofList scheme) name password behind := by
  let tail := (rest.reverse.dropWhile fun c => decide (c.toNat ≤ 0x20)).reverse
  let behind := cutTail (unbroken tail)
  refine ⟨userOf (unbroken user), behind, fun secret hsecret => ?_⟩
  have htrimmed : trimmed (loginText scheme user secret rest).toList =
      scheme ++ ':' :: '/' :: '/' :: (login user secret ++ tail) := by
    obtain ⟨c, cs, rfl, -⟩ := hscheme.letter
    have hvisible := hscheme.visible c List.mem_cons_self
    have h := trimmed_append hvisible (show 0x20 < '@'.toNat by decide)
      (cs ++ ':' :: '/' :: '/' :: (user ++ ':' :: secret)) rest
    simpa [loginText, login] using h
  have hunbroken : unbroken ('/' :: '/' :: (login user secret ++ tail)) =
      '/' :: '/' :: (login (unbroken user) (unbroken secret) ++ unbroken tail) := by
    rw [← unbroken_login]
    rfl
  have hundivided := hsecret.undivided.unbroken
  have hcut := cutTail_login huser.unbroken hundivided (unbroken tail)
  obtain ⟨password, hread⟩ := exists_readWithAuthority huser.unbroken hundivided hsecret.counts
    ('/' :: '/' :: (login (unbroken user) (unbroken secret) ++ behind.body)) behind
  refine ⟨password, ?_⟩
  rw [← hread, parse, htrimmed, hscheme.takeScheme?]
  dsimp only
  rw [hunbroken, hcut]
  cases hkind : Kind.ofScheme (String.ofList scheme) with
  | file => exact absurd hkind hfile
  | web =>
    rw [hkind] at huser
    rw [dropWhile_slashes huser.unbroken]
  | other => rfl

/-- Texts with any passwords in the same place are refused for the same fault, or read as targets
that are the same but for their passwords. -/
theorem parse_loginText_cases {p q : List Char}
    (hp : Secret (Kind.ofScheme (String.ofList scheme)) p)
    (hq : Secret (Kind.ofScheme (String.ofList scheme)) q) (rest : List Char) :
    (∃ fault, parse (loginText scheme user p rest) = .error fault ∧
      parse (loginText scheme user q rest) = .error fault) ∨
    ∃ u v, parse (loginText scheme user p rest) = .ok u ∧
      parse (loginText scheme user q rest) = .ok v ∧ SameButPassword u v := by
  obtain ⟨name, behind, hread⟩ := exists_parse_loginText hscheme hfile huser rest
  obtain ⟨a, ha⟩ := hread p hp
  obtain ⟨b, hb⟩ := hread q hq
  rw [ha, hb]
  rcases readBehind_cases (String.ofList scheme) name behind with ⟨fault, hfault⟩ | hok
  · exact .inl ⟨fault, hfault a, hfault b⟩
  · exact .inr (hok a b)

end

/-! ### Written targets -/

lemma loginText_toList (scheme user password rest : String) :
    loginText scheme.toList user.toList password.toList rest.toList =
      scheme ++ "://" ++ user ++ ":" ++ password ++ "@" ++ rest := by
  rw [← String.toList_inj, loginText, String.toList_ofList]
  simp [login]

lemma visible_of_userSet {c : Char} (h : userSet c = false) :
    0x20 < c.toNat ∧ c ∉ ['/', '\\', '?', '#', '@'] := by
  simp only [userSet, Bool.or_eq_false_iff, beq_eq_false_iff_ne] at h
  obtain ⟨hvisible, hhash, hmark⟩ := visible_of_pathSet h.1.1.1.1.1.1.1.1.1.1
  simp_all

lemma UserText.undivided {t : String} (h : UserText t) (kind : Kind) : Undivided kind t.toList := by
  intro c hc
  have hsafe := (visible_of_userSet (h c hc).1).2
  refine ⟨not_isSlash_of_notMem kind hsafe, ?_, ?_⟩
  · rintro rfl
    exact hsafe (by decide)
  · rintro rfl
    exact hsafe (by decide)

lemma UserText.isSecret {t : String} (h : UserText t) (hne : t ≠ "") (kind : Kind) :
    Secret kind t.toList where
  undivided := h.undivided kind
  counts := by
    rw [unbroken_of_visible fun c hc => (visible_of_userSet (h c hc).1).1]
    exact fun hnil => hne (String.toList_eq_nil_iff.mp hnil)

/-- Targets that are written alike but for their passwords are read alike but for their
passwords. -/
lemma parse_written_cases {target : String} {u : Url} {a : Authority} {p q : String}
    (hread : parse target = .ok u) (h : PasswordOf u a p) (hq : UserText q) (hne : q ≠ "")
    (rest : String) :
    (∃ fault, parse (u.scheme ++ "://" ++ a.user ++ ":" ++ p ++ "@" ++ rest) = .error fault ∧
      parse (u.scheme ++ "://" ++ a.user ++ ":" ++ q ++ "@" ++ rest) = .error fault) ∨
    ∃ v w, parse (u.scheme ++ "://" ++ a.user ++ ":" ++ p ++ "@" ++ rest) = .ok v ∧
      parse (u.scheme ++ "://" ++ a.user ++ ":" ++ q ++ "@" ++ rest) = .ok w ∧
      SameButPassword v w := by
  have hadmits := h.admitsPassword
  simp only [admitsPassword, Bool.and_eq_true, bne_iff_ne, ne_eq] at hadmits
  obtain ⟨host, hu⟩ := exists_of_parse hread hadmits.1
  rw [← loginText_toList, ← loginText_toList]
  refine parse_loginText_cases hu.scheme ?_ (h.userText.undivided _)
    (h.passwordText.isSecret h.ne_empty _) (hq.isSecret hne _) rest.toList
  rw [String.ofList_toList]
  exact fun hfile => hadmits.2 (eq_file_of_ofScheme hfile)

end TrafficFeed.Url
