import TrafficFeed.Proofs.Url.Login
import TrafficFeed.Transport.ListPublisher

/-!
# What is told of a refused target

A list publisher that cannot use its target tells all of the target but the password before its
host, and nothing of a text that is no target. Targets that are the same but for these passwords are
told in the same words, and come to the same unless one of the passwords cannot be decoded.
-/

namespace TrafficFeed.Transport

open TrafficFeed.Text TrafficFeed.Url

namespace ListTarget

variable {s t : String} {u v : Url} {a : Authority} {password : String}

/-! ### Masked targets -/

/-- The mask is written as it is. -/
lemma encode_mask : String.ofList (encode userSet mask.toList) = "***" := by decide

lemma withPassword_mask (a : Authority) :
    a.withPassword mask = { a with password := some "***" } := by
  rw [Authority.withPassword, encode_mask, if_neg (by decide)]

lemma masked_of_passwordOf (h : PasswordOf u a password) :
    masked u = { u with authority := some { a with password := some "***" } } := by
  have hsome : u.password?.isSome = true := by
    rw [password?, h.authority, Option.bind_some, h.holds, Option.isSome_some]
  rw [masked, if_pos hsome, h.setPassword?, Option.getD_some, withPassword_mask]

lemma masked_of_none (h : u.password? = none) : masked u = u := by
  rw [masked, h, Option.isSome_none, if_neg Bool.false_ne_true]

lemma toText_masked (h : PasswordOf u a password) : (masked u).toText =
    u.scheme ++ "://" ++ a.user ++ ":" ++ "***" ++ "@" ++ u.behindUser := by
  have hbehind : behindUser { u with authority := some { a with password := some "***" } } =
      u.behindUser := by
    simp only [behindUser, hostText, pathAndQuery, h.authority, Option.bind_some]
  rw [masked_of_passwordOf h, toText_of_password rfl rfl, hbehind]

/-! ### What is told -/

/-- What may be told of a text: nothing of one that is no target, all of a target without a
password, and of any other target all but the password, which reads as three stars. -/
inductive Told (s : String) : String → Prop where
  | unread {fault : Url.Error} (h : Url.parse s = .error fault) : Told s "<invalid url>"
  | whole {u : Url} (h : Url.parse s = .ok u) (hnone : u.password? = none) : Told s u.toText
  | masked {u : Url} {a : Authority} {password rest : String} (h : Url.parse s = .ok u)
      (hpassword : PasswordOf u a password)
      (htext : u.toText = u.scheme ++ "://" ++ a.user ++ ":" ++ password ++ "@" ++ rest) :
      Told s (u.scheme ++ "://" ++ a.user ++ ":" ++ "***" ++ "@" ++ rest)

lemma redacted_of_error {fault : Url.Error} (h : Url.parse s = .error fault) :
    redacted s = "<invalid url>" := by
  rw [redacted, h]

lemma redacted_of_ok (h : Url.parse s = .ok u) : redacted s = (masked u).toText := by
  rw [redacted, h]

lemma told_redacted (s : String) : Told s (redacted s) := by
  cases hread : Url.parse s with
  | error fault =>
    rw [redacted_of_error hread]
    exact .unread hread
  | ok u =>
    rw [redacted_of_ok hread]
    cases hpassword : u.password? with
    | none =>
      rw [masked_of_none hpassword]
      exact .whole hread hpassword
    | some password =>
      obtain ⟨a, h⟩ := exists_passwordOf_of_parse hread hpassword
      rw [toText_masked h]
      exact .masked hread h (toText_of_password h.authority h.holds)

/-- Both passwords can be masked, and what is left is the same. -/
lemma redacted_congr (hs : Url.parse s = .ok u) (ht : Url.parse t = .ok v)
    (h : SameButPassword u v) : redacted s = redacted t := by
  obtain ⟨scheme, user, p, q, host, port, path, query, fragment⟩ := h
  obtain ⟨a, hu⟩ := exists_passwordOf_of_parse hs (rfl : _ = some p)
  obtain ⟨b, hv⟩ := exists_passwordOf_of_parse ht (rfl : _ = some q)
  obtain rfl := Option.some.inj hu.authority
  obtain rfl := Option.some.inj hv.authority
  rw [redacted_of_ok hs, redacted_of_ok ht, masked_of_passwordOf hu, masked_of_passwordOf hv]

/-- What is told of a text with a password before a host does not depend on the password, whatever
characters it has but those that end an authority. -/
theorem redacted_loginText {scheme user p q : List Char} (hscheme : SchemeText scheme)
    (hfile : Kind.ofScheme (String.ofList scheme) ≠ .file)
    (huser : Undivided (Kind.ofScheme (String.ofList scheme)) user)
    (hp : Secret (Kind.ofScheme (String.ofList scheme)) p)
    (hq : Secret (Kind.ofScheme (String.ofList scheme)) q) (rest : List Char) :
    redacted (loginText scheme user p rest) = redacted (loginText scheme user q rest) := by
  rcases parse_loginText_cases hscheme hfile huser hp hq rest with
    ⟨fault, hs, ht⟩ | ⟨u, v, hs, ht, h⟩
  · rw [redacted_of_error hs, redacted_of_error ht]
  · exact redacted_congr hs ht h

/-- What is told of a target with a password is read again if the target's own text is, and then as
the same target but for the password. -/
theorem parse_redacted_cases (hs : Url.parse s = .ok u) (h : u.password? = some password) :
    (∃ fault, Url.parse u.toText = .error fault ∧ Url.parse (redacted s) = .error fault) ∨
    ∃ v w, Url.parse u.toText = .ok v ∧ Url.parse (redacted s) = .ok w ∧ SameButPassword v w := by
  obtain ⟨a, hu⟩ := exists_passwordOf_of_parse hs h
  have hstars : UserText "***" := encode_mask ▸ userText_encode mask.toList
  rw [redacted_of_ok hs, toText_masked hu, toText_of_password hu.authority hu.holds]
  exact parse_written_cases hs hu hstars (by decide) u.behindUser

/-- A slash ends the authority, so that what follows it is no password. -/
example : redacted "redis://user:12/secret@h" = "redis://user:12/secret@h" := by
  decide +kernel

/-! ### What targets come to -/

/-- What targets that are the same but for their passwords come to: the same fault, or the same
server asked in the same way, unless a password cannot be decoded. -/
inductive Alike : Except Error ListTarget → Except Error ListTarget → Prop where
  | refused (fault : Error) : Alike (.error fault) (.error fault)
  | used (x : ListTarget) (p : Option String) : Alike (.ok x) (.ok { x with password := p })
  | undecodedLeft (result : Except Error ListTarget) : Alike (.error .password) result
  | undecodedRight (result : Except Error ListTarget) : Alike result (.error .password)

namespace Alike

variable {α : Type} {x y x' y' : Except Error ListTarget}

lemma refl (x : Except Error ListTarget) : Alike x x := by
  cases x with
  | error fault => exact .refused fault
  | ok x => exact .used x x.password

lemma ite (c : Prop) [Decidable c] (h : Alike x y) (h' : Alike x' y') :
    Alike (if c then x else x') (if c then y else y') := by
  split
  · exact h
  · exact h'

/-- What is read before the passwords or after them is the same. -/
lemma bind (r : Except Error α) {f g : α → Except Error ListTarget} (h : ∀ a, Alike (f a) (g a)) :
    Alike (r >>= f) (r >>= g) := by
  cases r with
  | error fault => exact .refused fault
  | ok a => exact h a

lemma decoded (p q : String) {f g : Option String → Except Error ListTarget}
    (h : ∀ p q, Alike (f p) (g q)) :
    Alike (some <$> ListTarget.decoded .password p >>= f)
      (some <$> ListTarget.decoded .password q >>= g) := by
  unfold ListTarget.decoded
  cases decode? p.toList with
  | none => exact .undecodedLeft _
  | some p =>
    cases decode? q.toList with
    | none => exact .undecodedRight _
    | some q => exact h (some p) (some q)

end Alike

lemma alike_ofHost (h : SameButPassword u v) : Alike (ofHost u) (ofHost v) := by
  obtain ⟨scheme, user, p, q, host, port, path, query, fragment⟩ := h
  cases host with
  | none => exact .refused .noHost
  | some host =>
    unfold ofHost
    simp only [Option.bind_some, Option.map_some]
    -- A path and a user may be there or not, but they are the same in both targets.
    refine .ite _ (.refused .encrypted) (.ite _ ?_ ?_) <;>
    · refine .bind _ fun database => .ite _ ?_ ?_ <;>
      · exact .bind _ fun name => .decoded p q fun _ q => .bind _ fun dialect => .used _ q

/-- What is asked of a server at the path of a file does not depend on the password. -/
lemma alike_ofFile (h : SameButPassword u v) : Alike (ofFile u) (ofFile v) := by
  obtain ⟨scheme, user, p, q, host, port, path, query, fragment⟩ := h
  have hsame : ofFile ⟨scheme, some ⟨user, some p, host, port⟩, path, query, fragment⟩ =
      ofFile ⟨scheme, some ⟨user, some q, host, port⟩, path, query, fragment⟩ := rfl
  rw [hsame]
  exact .refl _

lemma alike_parse (hs : Url.parse s = .ok u) (ht : Url.parse t = .ok v)
    (h : SameButPassword u v) : Alike (parse s) (parse t) := by
  have hscheme : u.scheme = v.scheme := by
    cases h
    rfl
  rw [parse, parse, hs, ht]
  simp only [hscheme]
  exact .ite _ (alike_ofHost h) (.ite _ (alike_ofFile h) (.refused _))

end ListTarget

/-! ### Errors -/

namespace ListPublisher

open ListTarget

variable {ε : Type}

lemma connect_of_error (servers : Servers ε) (list : String) (e : ε) {s : String}
    {fault : ListTarget.Error} (h : ListTarget.parse s = .error fault) :
    connect servers s list e = (.error (.connect (redacted s) fault.message), e) := by
  rw [connect, h]

/-- The error of a publisher whose target is refused tells the target without its password, and
nothing of a text that is no target. For targets that are the same but for their passwords it tells
the same, and the fault is the same, too, unless one of the passwords cannot be decoded. -/
theorem connect_conceals_password (servers : Servers ε) (list : String) (e : ε) (s : String) :
    (∀ fault, Url.parse s = .error fault →
      connect servers s list e =
        (.error (.connect "<invalid url>" "Redis URL did not parse- InvalidClientConfig"), e)) ∧
    (∀ fault, ListTarget.parse s = .error fault →
      connect servers s list e = (.error (.connect (redacted s) fault.message), e)) ∧
    Told s (redacted s) ∧
    ∀ t u v, Url.parse s = .ok u → Url.parse t = .ok v → SameButPassword u v →
      redacted s = redacted t ∧ Alike (ListTarget.parse s) (ListTarget.parse t) := by
  refine ⟨fun fault hread => ?_, fun fault => connect_of_error servers list e, told_redacted s,
    fun t u v hs ht h => ⟨redacted_congr hs ht h, alike_parse hs ht h⟩⟩
  have hparse : ListTarget.parse s = .error .unreadable := by rw [ListTarget.parse, hread]
  rw [connect_of_error servers list e hparse, redacted_of_error hread]
  rfl

/-- Two passwords for a database that has no number, of which the second has marks of its own. -/
theorem connect_conceals_password_of_user :
    ∃ u v, Url.parse "redis://user:hunter2@h:6380/x" = .ok u ∧
      Url.parse "redis://user:p%40:@s[@h:6380/x" = .ok v ∧ SameButPassword u v ∧ u ≠ v ∧
      redacted "redis://user:hunter2@h:6380/x" = redacted "redis://user:p%40:@s[@h:6380/x" ∧
      connect Machine.servers "redis://user:hunter2@h:6380/x" "list" ⟨[]⟩ =
        (.error (.connect "redis://user:***@h:6380/x"
          "Invalid database number- InvalidClientConfig"), ⟨[]⟩) ∧
      connect Machine.servers "::hunter2" "list" ⟨[]⟩ =
        (.error (.connect "<invalid url>"
          "Redis URL did not parse- InvalidClientConfig"), ⟨[]⟩) := by
  have hs : Url.parse "redis://user:hunter2@h:6380/x" = .ok ⟨"redis",
      some ⟨"user", some "hunter2", some (.name "h"), some 6380⟩, "/x", none, none⟩ := by
    decide +kernel
  have ht : Url.parse "redis://user:p%40:@s[@h:6380/x" = .ok ⟨"redis",
      some ⟨"user", some "p%40%3A%40s%5B", some (.name "h"), some 6380⟩, "/x", none, none⟩ := by
    decide +kernel
  have hnone : Url.parse "::hunter2" = .error .noScheme := by decide +kernel
  have hrefused : ListTarget.parse "redis://user:hunter2@h:6380/x" = .error .database := by
    rw [ListTarget.parse, hs]
    rfl
  have htold : redacted "redis://user:hunter2@h:6380/x" = "redis://user:***@h:6380/x" := by
    rw [redacted_of_ok hs]
    decide +kernel
  obtain ⟨-, herror, -, hsame⟩ := connect_conceals_password Machine.servers "list" ⟨[]⟩
    "redis://user:hunter2@h:6380/x"
  obtain ⟨hunread, -⟩ := connect_conceals_password Machine.servers "list" ⟨[]⟩ "::hunter2"
  obtain ⟨hredacted, -⟩ := hsame _ _ _ hs ht (.passwords ..)
  refine ⟨_, _, hs, ht, .passwords .., by decide, hredacted, ?_, hunread _ hnone⟩
  rw [herror _ hrefused, htold]
  rfl

end ListPublisher

end TrafficFeed.Transport
