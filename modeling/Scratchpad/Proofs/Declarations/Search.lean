/-
The search for declarations, from left to right.

A document has a declaration wherever a keyword begins a word and blanks and a name follow. A search
does not find all of them: it takes the first one, and goes on behind it.

* `Declaration`, `Declares`: a declaration at its place in a document.
* `Found`: what a search finds from a position on: the first declaration that begins there or later,
  and then what it finds behind this one. `Found.unique` says that it finds nothing else.
* `exists_found_declaredBy`: the scan of a document names what the search finds, declaration by
  declaration.
* `FoundBefore`, `InOrderOfPlaces`: the order of the names in which they are first found.
* `identifiers_of_found`: the names of a document are those found by the two searches, without
  reserved words, once each and in this order.
-/
import Mathlib
import Scratchpad.Proofs.Declarations

namespace Scratchpad

variable {kw d n p r : Text} {i : ℕ}

/-! ### Declarations at their places -/

/-- A declaration in a document. A place is the number of characters in front of it. -/
@[ext]
structure Declaration where
  /-- Where the keyword begins. -/
  start : ℕ
  /-- Where the name begins. -/
  place : ℕ
  name : Text

/-- The place behind the name. -/
def Declaration.stop (x : Declaration) : ℕ := x.place + x.name.length

/-- The document has the declaration: a keyword that begins a word, blanks, and a name that is
taken as long as it goes. -/
def Declares (kw d : Text) (x : Declaration) : Prop :=
  ∃ p w q, d = p ++ kw ++ w ++ x.name ++ q ∧ StandsFree p ∧ IsGap w ∧ IsName x.name ∧
    EndsName q ∧ x.start = p.length ∧ x.place = (p ++ kw ++ w).length

variable {x y : Declaration} {xs ys : List Declaration}

/-- A declaration that begins behind `p` is the one at the front of what follows. -/
lemma declares_append_iff (hx : x.start = p.length) :
    Declares kw (p ++ r) x ↔ StandsFree p ∧
      ∃ length, declarationAt? kw r = some (x.name, length) ∧ x.stop = p.length + length := by
  constructor
  · rintro ⟨p', w, q, hd, hp, hw, hn, hq, hstart, hplace⟩
    have hassoc : p ++ r = p' ++ (kw ++ (w ++ (x.name ++ q))) := by simpa using hd
    obtain ⟨rfl, rfl⟩ := List.append_inj hassoc (hx.symm.trans hstart)
    refine ⟨hp, _, declarationAt?_eq_some_iff.mpr ⟨w, q, hw, hn, hq, rfl, rfl⟩, ?_⟩
    simp only [Declaration.stop, hplace, List.length_append]
    omega
  · rintro ⟨hp, length, hfound, hstop⟩
    obtain ⟨w, q, hw, hn, hq, rfl, rfl⟩ := declarationAt?_eq_some_iff.mp hfound
    refine ⟨p, w, q, by simp, hp, hw, hn, hq, hx, ?_⟩
    simp only [Declaration.stop, List.length_append] at hstop ⊢
    omega

/-- The declaration at the front of what follows `p`, at its place in the document. -/
lemma exists_declares {length : ℕ} (hp : StandsFree p)
    (hfound : declarationAt? kw r = some (n, length)) :
    ∃ x, Declares kw (p ++ r) x ∧ x.start = p.length ∧ x.name = n ∧
      x.stop = p.length + length := by
  obtain ⟨w, q, -, -, -, -, hlength⟩ := declarationAt?_eq_some_iff.mp hfound
  have hstop : p.length + (length - n.length) + n.length = p.length + length := by omega
  exact ⟨⟨p.length, p.length + (length - n.length), n⟩,
    (declares_append_iff rfl).mpr ⟨hp, length, hfound, hstop⟩, rfl, rfl, hstop⟩

/-- Where a declaration begins determines it. -/
lemma Declares.eq_of_start_eq (hx : Declares kw d x) (hy : Declares kw d y)
    (h : x.start = y.start) : x = y := by
  obtain ⟨p, r, rfl, hstart⟩ : ∃ p r, d = p ++ r ∧ x.start = p.length := by
    obtain ⟨p, w, q, rfl, -, -, -, -, hstart, -⟩ := hx
    exact ⟨p, kw ++ (w ++ (x.name ++ q)), by simp, hstart⟩
  obtain ⟨-, length, hfound, hstop⟩ := (declares_append_iff hstart).mp hx
  obtain ⟨-, length', hfound', hstop'⟩ := (declares_append_iff (h.symm.trans hstart)).mp hy
  rw [hfound, Option.some_inj, Prod.mk.injEq] at hfound'
  obtain ⟨hname, rfl⟩ := hfound'
  have hplace : x.place = y.place := by
    simp only [Declaration.stop, hname] at hstop hstop'
    omega
  exact Declaration.ext h hplace hname

/-- The keyword and the blanks stand in front of the name. -/
lemma Declares.start_add_length_lt (h : Declares kw d x) : x.start + kw.length < x.place := by
  obtain ⟨p, w, q, -, -, hw, -, -, hstart, hplace⟩ := h
  have hpos := List.length_pos_iff.mpr hw.1
  simp only [hstart, hplace, List.length_append]
  omega

lemma Declares.isName (h : Declares kw d x) : IsName x.name := by
  obtain ⟨-, -, -, -, -, -, hn, -⟩ := h
  exact hn

lemma Declares.place_lt_stop (h : Declares kw d x) : x.place < x.stop :=
  Nat.lt_add_of_pos_right (List.length_pos_iff.mpr h.isName.ne_nil)

lemma Declares.stop_le (h : Declares kw d x) : x.stop ≤ d.length := by
  obtain ⟨p, w, q, rfl, -, -, -, -, -, hplace⟩ := h
  simp only [Declaration.stop, hplace, List.length_append]
  omega

lemma Declares.start_lt_stop (h : Declares kw d x) : x.start < x.stop :=
  (Nat.lt_of_le_of_lt (Nat.le_add_right _ _) h.start_add_length_lt).trans h.place_lt_stop

lemma Declares.start_lt_length (h : Declares kw d x) : x.start < d.length :=
  h.start_lt_stop.trans_le h.stop_le

/-! ### The search -/

/-- What the search of a document finds from a position on. -/
inductive Found (kw d : Text) : ℕ → List Declaration → Prop
  /-- No declaration begins there or later. -/
  | none {i : ℕ} (h : ∀ y, Declares kw d y → y.start < i) : Found kw d i []
  /-- The first declaration that begins there or later, and what is found behind it. -/
  | first {i : ℕ} {x : Declaration} {rest : List Declaration} (hx : Declares kw d x)
      (hi : i ≤ x.start) (hfirst : ∀ y, Declares kw d y → i ≤ y.start → x.start ≤ y.start)
      (hrest : Found kw d x.stop rest) : Found kw d i (x :: rest)

/-- The search finds one list of declarations. -/
lemma Found.unique (hx : Found kw d i xs) (hy : Found kw d i ys) : xs = ys := by
  induction hx generalizing ys with
  | none h =>
      cases hy with
      | none => rfl
      | first hy hi => exact absurd (h _ hy) (Nat.not_lt.mpr hi)
  | first hx hi hfirst _ ih =>
      cases hy with
      | none h => exact absurd (h _ hx) (Nat.not_lt.mpr hi)
      | first hy hi' hfirst' hrest =>
          obtain rfl := hx.eq_of_start_eq hy (Nat.le_antisymm (hfirst _ hy hi') (hfirst' _ hx hi))
          rw [ih hrest]

/-- Where no declaration begins the search goes on. -/
lemma Found.of_succ (h : Found kw d (i + 1) xs) (hi : ∀ y, Declares kw d y → y.start ≠ i) :
    Found kw d i xs := by
  cases h with
  | none h =>
      refine .none fun y hy => ?_
      have hne := hi y hy
      have hlt := h y hy
      omega
  | first hx hle hfirst hrest =>
      refine .first hx (Nat.le_of_succ_le hle) (fun y hy hiy => ?_) hrest
      exact hfirst y hy (Nat.lt_of_le_of_ne hiy (hi y hy).symm)

lemma Found.declares (h : Found kw d i xs) : ∀ x ∈ xs, Declares kw d x ∧ i ≤ x.start := by
  induction h with
  | none => simp
  | first hx hi _ _ ih =>
      rw [List.forall_mem_cons]
      refine ⟨⟨hx, hi⟩, fun y hy => ?_⟩
      obtain ⟨hdeclares, hstop⟩ := ih y hy
      exact ⟨hdeclares, (hi.trans hx.start_lt_stop.le).trans hstop⟩

/-- What is found later stands further back. -/
lemma Found.pairwise (h : Found kw d i xs) : xs.Pairwise fun x y => x.place < y.place := by
  induction h with
  | none => exact List.Pairwise.nil
  | first hx _ _ hrest ih =>
      refine List.Pairwise.cons (fun y hy => ?_) ih
      obtain ⟨hdeclares, hstop⟩ := hrest.declares y hy
      have hplace := hdeclares.start_add_length_lt
      have hlt := hx.place_lt_stop
      omega

/-- The scan of what is left of a document names what the search finds there. -/
lemma exists_found_scan (kw p r : Text) {taken : ℕ} (htaken : taken ≤ r.length) :
    ∃ xs, Found kw (p ++ r) (p.length + taken) xs ∧
      scan kw taken (joinedAfter false p) r = xs.map Declaration.name := by
  induction r generalizing p taken with
  | nil =>
      obtain rfl := Nat.le_zero.mp htaken
      refine ⟨[], .none fun y hy => ?_, rfl⟩
      have hlt := hy.start_lt_length
      rwa [List.append_nil] at hlt
  | cons c r ih =>
      have hnext : ∀ taken ≤ r.length, ∃ xs, Found kw (p ++ c :: r) (p.length + 1 + taken) xs ∧
          scan kw taken (joinsKeyword c) r = xs.map Declaration.name := by
        intro taken htaken
        simpa [joinedAfter_append_singleton] using ih (p ++ [c]) htaken
      cases taken with
      | succ taken =>
          have hscan := hnext taken (Nat.le_of_succ_le_succ htaken)
          rwa [Nat.add_right_comm] at hscan
      | zero =>
          obtain ⟨xs, hfound, hscan⟩ := hnext 0 (Nat.zero_le _)
          cases hjoined : joinedAfter false p with
          | true =>
              refine ⟨xs, hfound.of_succ fun y hy hstart => ?_, hscan⟩
              have hfree := ((declares_append_iff hstart).mp hy).1
              rw [← joinedAfter_eq_false_iff, hjoined] at hfree
              cases hfree
          | false =>
              rw [scan]
              cases hat : declarationAt? kw (c :: r) with
              | none =>
                  refine ⟨xs, hfound.of_succ fun y hy hstart => ?_, hscan⟩
                  obtain ⟨-, length, hsome, -⟩ := (declares_append_iff hstart).mp hy
                  rw [hat] at hsome
                  cases hsome
              | some result =>
                  obtain ⟨n, length⟩ := result
                  obtain ⟨x, hx, hstart, rfl, hstop⟩ :=
                    exists_declares (joinedAfter_eq_false_iff.mp hjoined) hat
                  have hlt := hx.start_lt_stop
                  have hle := length_le_of_declarationAt? hat
                  rw [List.length_cons] at hle
                  obtain ⟨xs, hfound, hscan⟩ := hnext (length - 1) (by omega)
                  have hbehind : p.length + 1 + (length - 1) = x.stop := by omega
                  rw [hbehind] at hfound
                  refine ⟨x :: xs, .first hx hstart.ge (fun y _ hy => hstart.trans_le hy) hfound, ?_⟩
                  exact congrArg (x.name :: ·) hscan

/-- A search from any position on finds something, be it the empty list. -/
lemma exists_found (kw d : Text) (i : ℕ) : ∃ xs, Found kw d i xs := by
  rcases Nat.lt_or_ge d.length i with hi | hi
  · exact ⟨[], .none fun y hy => hy.start_lt_length.trans hi⟩
  · obtain ⟨xs, hfound, -⟩ := exists_found_scan kw [] d hi
    rw [List.length_nil, Nat.zero_add] at hfound
    exact ⟨xs, hfound⟩

/-- The search of a document finds one list of declarations, and the scan names them one by one. -/
theorem exists_found_declaredBy (kw d : Text) :
    ∃ xs, (∀ ys, Found kw d 0 ys ↔ ys = xs) ∧ declaredBy kw d = xs.map Declaration.name := by
  obtain ⟨xs, hfound, hscan⟩ := exists_found_scan kw [] d (Nat.zero_le _)
  refine ⟨xs, fun ys => ⟨fun h => h.unique hfound, ?_⟩, hscan⟩
  rintro rfl
  exact hfound

/-! ### The order of names -/

/-- Among the declarations `xs`, one of `m` stands in front of all those of `n`. -/
def FoundBefore (xs : List Declaration) (m n : Text) : Prop :=
  ∃ x ∈ xs, x.name = m ∧ ∀ y ∈ xs, y.name = n → x.place < y.place

lemma FoundBefore.cons {m : Text} (h : FoundBefore xs m n) (hn : x.name ≠ n) :
    FoundBefore (x :: xs) m n := by
  obtain ⟨y, hy, hm, hbefore⟩ := h
  refine ⟨y, List.mem_cons_of_mem x hy, hm, ?_⟩
  rw [List.forall_mem_cons]
  exact ⟨fun h => absurd h hn, hbefore⟩

/-- Keeping the first of equal names keeps the order of first places. -/
lemma pairwise_foundBefore (h : xs.Pairwise fun x y => x.place < y.place) (f : Text → Bool) :
    (((xs.map Declaration.name).filter f).eraseDups).Pairwise (FoundBefore xs) := by
  induction h generalizing f with
  | nil => simp
  | @cons x xs hx _ ih =>
      rw [List.map_cons]
      cases hf : f x.name with
      | false =>
          rw [List.filter_cons_of_neg (by simp [hf])]
          refine (ih f).imp_of_mem fun _ hn hbefore => hbefore.cons ?_
          rintro rfl
          rw [List.mem_eraseDups, List.mem_filter, hf] at hn
          exact Bool.false_ne_true hn.2
      | true =>
          rw [List.filter_cons_of_pos hf, List.eraseDups_cons, List.filter_filter]
          have hne : ∀ n ∈ ((xs.map Declaration.name).filter
              fun n => !n == x.name && f n).eraseDups, x.name ≠ n := by
            rintro n hn rfl
            simp at hn
          refine List.Pairwise.cons (fun n hn => ⟨x, List.mem_cons_self, rfl, ?_⟩) ?_
          · rw [List.forall_mem_cons]
            exact ⟨fun h => absurd h (hne n hn), fun y hy _ => hx y hy⟩
          · exact (ih _).imp_of_mem fun _ hn hbefore => hbefore.cons (hne _ hn)

/-- The names found in `locals` stand in front of those found in `functions` only, and both groups
are in the order of first places. -/
def InOrderOfPlaces (locals functions : List Declaration) (names : List Text) : Prop :=
  ∃ front back, names = front ++ back ∧
    (∀ n ∈ front, ∃ x ∈ locals, x.name = n) ∧ (∀ n ∈ back, ∀ x ∈ locals, x.name ≠ n) ∧
    front.Pairwise (FoundBefore locals) ∧ back.Pairwise (FoundBefore functions)

variable {locals functions : List Declaration}

lemma inOrderOfPlaces_identifiers (hlocals : Found localKeyword d 0 locals)
    (hfunctions : Found functionKeyword d 0 functions)
    (hl : declaredBy localKeyword d = locals.map Declaration.name)
    (hf : declaredBy functionKeyword d = functions.map Declaration.name) :
    InOrderOfPlaces locals functions (identifiers d) := by
  rw [identifiers, List.filter_append, List.eraseDups_append, List.removeAll, List.filter_filter,
    hl, hf]
  refine ⟨_, _, rfl, fun n hn => ?_, fun n hn x hx hname => ?_,
    pairwise_foundBefore hlocals.pairwise _, pairwise_foundBefore hfunctions.pairwise _⟩
  · rw [List.mem_eraseDups, List.mem_filter, List.mem_map] at hn
    exact hn.1
  · have hmem : n ∈ locals.map Declaration.name := hname ▸ List.mem_map_of_mem hx
    rw [List.mem_eraseDups, List.mem_filter] at hn
    simp [hmem] at hn

/-! ### The names of a document -/

/-- The name stands in the document behind blanks, and these behind a keyword that begins a word;
and it ends there. -/
def DeclaredIn (d n : Text) : Prop :=
  ∃ kw ∈ [localKeyword, functionKeyword], ∃ p w q, d = p ++ kw ++ w ++ n ++ q ∧
    StandsFree p ∧ IsGap w ∧ EndsName q

lemma Declares.declaredIn (h : Declares kw d x) (hkw : kw ∈ [localKeyword, functionKeyword]) :
    DeclaredIn d x.name := by
  obtain ⟨p, w, q, hd, hp, hw, -, hq, -⟩ := h
  exact ⟨kw, hkw, p, w, q, hd, hp, hw, hq⟩

lemma mem_identifiers_iff_found (hl : declaredBy localKeyword d = locals.map Declaration.name)
    (hf : declaredBy functionKeyword d = functions.map Declaration.name) :
    n ∈ identifiers d ↔ isReserved n = false ∧ ∃ x ∈ locals ++ functions, x.name = n := by
  rw [mem_identifiers, hl, hf, ← List.mem_append, ← List.map_append, List.mem_map, and_comm]

/-- **Names of a document**: no name is listed twice; each has the shape of a name, is not reserved,
and is declared somewhere; the list has exactly the names that the two searches find, except for
reserved words; and those of the first search are in front, each group in the order of first
places. -/
theorem identifiers_of_found (d : Text) :
    ∃ locals functions : List Declaration,
      (∀ xs, Found localKeyword d 0 xs ↔ xs = locals) ∧
      (∀ xs, Found functionKeyword d 0 xs ↔ xs = functions) ∧
      (identifiers d).Nodup ∧
      (∀ n ∈ identifiers d, IsName n ∧ isReserved n = false ∧ DeclaredIn d n) ∧
      (∀ n, n ∈ identifiers d ↔ isReserved n = false ∧ ∃ x ∈ locals ++ functions, x.name = n) ∧
      InOrderOfPlaces locals functions (identifiers d) := by
  obtain ⟨locals, hlocals, hl⟩ := exists_found_declaredBy localKeyword d
  obtain ⟨functions, hfunctions, hf⟩ := exists_found_declaredBy functionKeyword d
  have hfoundLocals := (hlocals locals).mpr rfl
  have hfoundFunctions := (hfunctions functions).mpr rfl
  refine ⟨locals, functions, hlocals, hfunctions, identifiers_nodup d, fun n hn => ?_,
    fun n => mem_identifiers_iff_found hl hf,
    inOrderOfPlaces_identifiers hfoundLocals hfoundFunctions hl hf⟩
  obtain ⟨hreserved, x, hx, rfl⟩ := (mem_identifiers_iff_found hl hf).mp hn
  rcases List.mem_append.mp hx with hx | hx
  · have hdeclares := (hfoundLocals.declares x hx).1
    exact ⟨hdeclares.isName, hreserved, hdeclares.declaredIn (by simp)⟩
  · have hdeclares := (hfoundFunctions.declares x hx).1
    exact ⟨hdeclares.isName, hreserved, hdeclares.declaredIn (by simp)⟩

end Scratchpad
