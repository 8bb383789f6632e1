import Mathlib.Data.List.TakeWhile
import PrinterRoster.Proofs.Text.Digits
import PrinterRoster.Uri

/-! A URI put together from a scheme, a host, a port and a path. Reading it gives these parts back:
the scheme ends at the first colon, the authority at the first slash after that, and the port stands
after the last colon of the authority. -/
namespace PrinterRoster.Uri
open Text

inductive Shows : List Char → List Char → Prop
  | plain {host : List Char} (any : host ≠ []) (each : ∀ c ∈ host, isAuthorityChar c = true) :
      Shows host host
  | bracketed {host : List Char} (each : ∀ c ∈ host, c = ':' ∨ isAuthorityChar c = true)
      (few : host.count ':' ≤ 8) : Shows ('[' :: (host ++ [']'])) host

private theorem ne_of_isAuthorityChar {c mark : Char} (plain : isAuthorityChar c = true)
    (special : isAuthorityChar mark = false) : c ≠ mark := by
  rintro rfl
  exact absurd plain (by simp [special])

theorem isAuthorityChar_of_isAlphanum {c : Char} (alphanumeric : c.isAlphanum = true) :
    isAuthorityChar c = true := by
  simp [isAuthorityChar, alphanumeric]

private theorem endsAuthority_of_isAuthorityChar {c : Char} (plain : isAuthorityChar c = true) :
    endsAuthority c = false := by
  have slash : c ≠ '/' := ne_of_isAuthorityChar plain (by decide)
  have question : c ≠ '?' := ne_of_isAuthorityChar plain (by decide)
  have hash : c ≠ '#' := ne_of_isAuthorityChar plain (by decide)
  simp [endsAuthority, slash, question, hash]

private theorem isAuthorityChar_of_mem_digits {n : Nat} {c : Char} (member : c ∈ Decimal.digits n) :
    isAuthorityChar c = true :=
  isAuthorityChar_of_isAlphanum (by simp [Char.isAlphanum, (Decimal.isRun_digits n).2 c member])

namespace AuthorityScan
variable (scan : AuthorityScan) (within : scan.endsInAt = false)
include within

private theorem next?_plain {c : Char} (plain : isAuthorityChar c = true) :
    scan.next? c = some scan := by
  have colon : c ≠ ':' := ne_of_isAuthorityChar plain (by decide)
  have opening : c ≠ '[' := ne_of_isAuthorityChar plain (by decide)
  have closing : c ≠ ']' := ne_of_isAuthorityChar plain (by decide)
  have atSign : c ≠ '@' := ne_of_isAuthorityChar plain (by decide)
  have percent : c ≠ '%' := ne_of_isAuthorityChar plain (by decide)
  simp [next?, colon, opening, closing, atSign, percent, plain, ← within]

private theorem next?_colon (room : scan.colons < 8) :
    scan.next? ':' = some { scan with colons := scan.colons + 1 } := by
  simp [next?, Nat.not_le.2 room, ← within]

/-- A text of plain characters and colons is read to its end, if there is room for the colons. -/
theorem foldlM_next? {text : List Char} (each : ∀ c ∈ text, c = ':' ∨ isAuthorityChar c = true)
    (room : scan.colons + text.count ':' ≤ 8) :
    text.foldlM next? scan = some { scan with colons := scan.colons + text.count ':' } := by
  induction text generalizing scan with
  | nil => rfl
  | cons c rest ih =>
    obtain ⟨first, others⟩ := List.forall_mem_cons.1 each
    rw [List.foldlM_cons]
    rcases first with rfl | plain
    · rw [List.count_cons_self] at room ⊢
      rw [next?_colon scan within (by omega)]
      have later := ih { scan with colons := scan.colons + 1 } within others (by simp only; omega)
      simp only at later
      rw [Nat.add_assoc, Nat.add_comm 1] at later
      exact later
    · have other : c ≠ ':' := ne_of_isAuthorityChar plain (by decide)
      rw [List.count_cons_of_ne other] at room ⊢
      rw [next?_plain scan within plain]
      exact ih scan within others room

/-- One colon and the digits of a port are read after a host. -/
theorem foldlM_port (fresh : scan.colons = 0) (port : Nat) :
    (':' :: Decimal.digits port).foldlM next? scan = some { scan with colons := 1 } := by
  have absent : ':' ∉ Decimal.digits port :=
    fun member => absurd (isAuthorityChar_of_mem_digits member) (by decide)
  have single : (':' :: Decimal.digits port).count ':' = 1 := by
    rw [List.count_cons_self, List.count_eq_zero.2 absent]
  have each : ∀ c ∈ ':' :: Decimal.digits port, c = ':' ∨ isAuthorityChar c = true :=
    List.forall_mem_cons.2 ⟨Or.inl rfl, fun c member => Or.inr (isAuthorityChar_of_mem_digits member)⟩
  have read := foldlM_next? scan within each (by omega)
  rw [single, fresh] at read
  exact read

end AuthorityScan

private theorem dropWhile_of_not_mem {mark : Char} {text : List Char} (absent : mark ∉ text) :
    text.dropWhile (· == mark) = text := by
  cases text with
  | nil => rfl
  | cons c rest =>
    have different : c ≠ mark := (List.ne_of_not_mem_cons absent).symm
    exact List.dropWhile_cons_of_neg (by simpa using different)

private theorem takeWhile_before {mark : Char} {text : List Char} (absent : mark ∉ text)
    (rest : List Char) : (text ++ mark :: rest).takeWhile (· != mark) = text := by
  have each : ∀ c ∈ text, (c != mark) = true :=
    fun c member => bne_iff_ne.2 (ne_of_mem_of_not_mem member absent)
  rw [List.takeWhile_append_of_pos each, List.takeWhile_cons_of_neg (by simp), List.append_nil]

theorem port?_of_digits (shown path : List Char) {port : Nat} (small : port < 65536) :
    port? ⟨shown ++ ':' :: Decimal.digits port, path⟩ = some port := by
  have run := Decimal.isRun_digits port
  have absent : ':' ∉ (Decimal.digits port).reverse :=
    fun member => absurd (run.2 ':' (List.mem_reverse.1 member)) (by decide)
  have last : ((shown ++ ':' :: Decimal.digits port).reverse.takeWhile (· != ':')).reverse =
      Decimal.digits port := by
    rw [List.reverse_append, List.reverse_cons, List.append_assoc, List.singleton_append,
      takeWhile_before absent, List.reverse_reverse]
  have unsigned : (Decimal.digits port).head? ≠ some '+' := by
    intro plus
    exact absurd (run.2 '+' (List.mem_of_mem_head? plus)) (by decide)
  have marked : (shown ++ ':' :: Decimal.digits port).contains ':' = true := by simp
  simp only [port?, marked, last, if_neg unsigned, Decimal.value?_digits]
  simp [small]

section Authority
variable {shown host : List Char} (shows : Shows shown host) (port : Nat)
include shows

/-- What holds of plain characters, colons and brackets holds of all that stands in an authority. -/
theorem forall_mem_of_shows (good : Char → Prop) (letters : ∀ c, isAuthorityChar c = true → good c)
    (colon : good ':') (brackets : good '[' ∧ good ']') :
    ∀ c ∈ shown ++ ':' :: Decimal.digits port, good c := by
  have number : ∀ c ∈ ':' :: Decimal.digits port, good c :=
    List.forall_mem_cons.2 ⟨colon, fun c member => letters c (isAuthorityChar_of_mem_digits member)⟩
  refine List.forall_mem_append.2 ⟨?_, number⟩
  cases shows with
  | plain any each => exact fun c member => letters c (each c member)
  | bracketed each few =>
    refine List.forall_mem_cons.2 ⟨brackets.1, List.forall_mem_append.2
      ⟨?_, List.forall_mem_singleton.2 brackets.2⟩⟩
    intro c member
    rcases each c member with rfl | plain
    · exact colon
    · exact letters c plain

private theorem isAuthority_of_shows : isAuthority
    (shown ++ ':' :: Decimal.digits port) = true := by
  cases shows with
  | plain any each =>
    have absent : ':' ∉ shown := fun member => absurd (each ':' member) (by decide)
    have host := AuthorityScan.foldlM_next? {} rfl (fun c member => Or.inr (each c member))
      (by rw [List.count_eq_zero.2 absent]; decide)
    rw [List.count_eq_zero.2 absent] at host
    rw [isAuthority, List.foldlM_append, host, Option.bind_eq_bind, Option.bind_some,
      AuthorityScan.foldlM_port _ rfl rfl]
    rfl
  | bracketed each few =>
    have opens : AuthorityScan.next? {} '[' = some { opened := true } := rfl
    have inside := AuthorityScan.foldlM_next? { opened := true } rfl each (by simpa using few)
    have closes (colons : Nat) : AuthorityScan.next? { opened := true, colons := colons } ']' =
        some { opened := true, closed := true } := rfl
    rw [isAuthority, List.cons_append, List.append_assoc, List.foldlM_cons, opens,
      Option.bind_eq_bind, Option.bind_some, List.foldlM_append, inside, Option.bind_eq_bind,
      Option.bind_some, List.singleton_append, List.foldlM_cons, closes, Option.bind_eq_bind,
      Option.bind_some, AuthorityScan.foldlM_port _ rfl rfl]
    rfl

theorem host?_of_shows (path : List Char) :
    host? ⟨shown ++ ':' :: Decimal.digits port, path⟩ = some shown := by
  have noUser : hostAndPort ⟨shown ++ ':' :: Decimal.digits port, path⟩ =
      shown ++ ':' :: Decimal.digits port := by
    have each := forall_mem_of_shows shows port (fun c => (c != '@') = true)
      (fun c plain => bne_iff_ne.2 (ne_of_isAuthorityChar plain (by decide))) (by decide) (by decide)
    rw [hostAndPort, List.takeWhile_eq_self_iff.2 fun c member => each c (List.mem_reverse.1 member),
      List.reverse_reverse]
  have any : (shown ++ ':' :: Decimal.digits port).isEmpty = false := by simp
  rw [host?, noUser, any]
  cases shows with
  | plain nonempty each =>
    have absent : ':' ∉ shown := fun member => absurd (each ':' member) (by decide)
    have named : (shown ++ ':' :: Decimal.digits port).head? ≠ some '[' := by
      rw [List.head?_append_of_ne_nil _ nonempty]
      intro bracket
      exact absurd (each '[' (List.mem_of_mem_head? bracket)) (by decide)
    rw [if_neg Bool.false_ne_true, if_neg named, takeWhile_before absent]
  | bracketed each few =>
    have absent : ']' ∉ '[' :: host := by
      intro member
      rcases List.mem_cons.1 member with same | inside
      · exact absurd same (by decide)
      · exact absurd (each ']' inside) (by decide)
    have cut := takeWhile_before absent (':' :: Decimal.digits port)
    rw [if_neg Bool.false_ne_true, List.cons_append, List.append_assoc, List.singleton_append]
    rw [List.cons_append] at cut
    rw [cut]
    rfl

theorem unbracketed_of_shows : unbracketed shown = host := by
  cases shows with
  | plain any each =>
    have opening : '[' ∉ shown := fun member => absurd (each '[' member) (by decide)
    have closing : ']' ∉ shown.reverse :=
      fun member => absurd (each ']' (List.mem_reverse.1 member)) (by decide)
    rw [unbracketed, dropWhile_of_not_mem opening, dropWhile_of_not_mem closing, List.reverse_reverse]
  | bracketed each few =>
    have opening : '[' ∉ host ++ [']'] := by
      intro member
      rcases List.mem_append.1 member with inside | last
      · exact absurd (each '[' inside) (by decide)
      · exact absurd (List.mem_singleton.1 last) (by decide)
    have closing : ']' ∉ host.reverse :=
      fun member => absurd (each ']' (List.mem_reverse.1 member)) (by decide)
    rw [unbracketed, List.dropWhile_cons_of_pos (by rfl), dropWhile_of_not_mem opening,
      List.reverse_append, List.reverse_singleton, List.singleton_append,
      List.dropWhile_cons_of_pos (by rfl), dropWhile_of_not_mem closing, List.reverse_reverse]

end Authority

private theorem pathOf?_of_path {path : List Char} (rooted : path.head? = some '/')
    (each : ∀ c ∈ path, isPathChar c = true) : pathOf? path = some path := by
  have unmarked (mark : Char) (special : isPathChar mark = false) :
      path.takeWhile (· != mark) = path := by
    refine List.takeWhile_eq_self_iff.2 fun c member => bne_iff_ne.2 ?_
    rintro rfl
    exact absurd (each c member) (by simp [special])
  have all : path.all isPathChar = true := List.all_eq_true.2 each
  have any : path.isEmpty = false := by
    cases path with
    | nil => cases rooted
    | cons => rfl
  simp only [pathOf?, unmarked '#' (by decide), unmarked '?' (by decide), all, any,
    List.drop_length]
  rfl

theorem withScheme?_append {authority path : List Char} (any : authority ≠ [])
    (sound : isAuthority authority = true) (inside : ∀ c ∈ authority, endsAuthority c = false)
    (rooted : path.head? = some '/') (each : ∀ c ∈ path, isPathChar c = true) :
    withScheme? (authority ++ path) = some ⟨authority, path⟩ := by
  obtain ⟨rest, rfl⟩ := List.head?_eq_some_iff.1 rooted
  have cut : (authority ++ '/' :: rest).takeWhile (fun c => !endsAuthority c) = authority := by
    rw [List.takeWhile_append_of_pos fun c member => by rw [inside c member]; rfl,
      List.takeWhile_cons_of_neg (by decide), List.append_nil]
  simp [withScheme?, cut, any, sound, pathOf?_of_path rooted each]

def IsPrintScheme (scheme : List Char) : Prop := scheme = "ipp".toList ∨ scheme = "ipps".toList

private theorem parseChars?_of_printScheme {scheme : List Char} (printing : IsPrintScheme scheme)
    (rest : List Char) : parseChars? (scheme ++ "://".toList ++ rest) = withScheme? rest := by
  rcases printing with rfl | rfl <;> rfl

/-- A URI that is not too long is read as the parts that it was put together from. -/
theorem parse?_of_shows {scheme shown host path : List Char} (printing : IsPrintScheme scheme)
    (shows : Shows shown host) (port : Nat) (rooted : path.head? = some '/')
    (each : ∀ c ∈ path, isPathChar c = true) {text : String}
    (made : text.toList = scheme ++ "://".toList ++ (shown ++ ':' :: Decimal.digits port ++ path))
    (fits : text.utf8ByteSize ≤ sizeLimit) :
    parse? text = some ⟨shown ++ ':' :: Decimal.digits port, path⟩ := by
  have inside := forall_mem_of_shows shows port (fun c => endsAuthority c = false)
    (fun c => endsAuthority_of_isAuthorityChar) (by decide) (by decide)
  rw [parse?, if_neg (Nat.not_lt.2 fits), made, parseChars?_of_printScheme printing]
  exact withScheme?_append (by simp) (isAuthority_of_shows shows port) inside rooted each

end PrinterRoster.Uri
