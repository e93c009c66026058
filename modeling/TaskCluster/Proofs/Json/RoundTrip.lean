import Mathlib
import TaskCluster.Proofs.Json.Tokens

/-!
# What was written reads back

A value reads back up to a byte that closes it, whatever follows (`Reader.ReadsBack`). There is one
lemma for each kind of value; those of lists and objects assume it of their parts, and the number of
unread bytes bounds how many parts there are. Nesting takes one from the depth that is left, so a
value that is nested up to a depth needs a reader with that depth.

The fields of an object are inserted one by one. Their keys ascend, so each goes behind those that
are there.
-/

namespace TaskCluster.Json

open Text.Utf8 (encode encode_append)

namespace Reader

/-! ### Values -/

/-- The first byte of a value. -/
structure Opens (b : UInt8) : Prop where
  not_blank : isBlankByte b = false
  not_bracket : b ≠ 93

theorem skipBlanks_cons {b : UInt8} (h : isBlankByte b = false) (rest : List UInt8) :
    skipBlanks (b :: rest) = b :: rest := by
  rw [skipBlanks, List.dropWhile_cons, h]
  rfl

variable {depth : Nat}

theorem value_str {s : String} {rest more : List UInt8} (h : stringTail rest = .ok (s, more)) :
    value (depth + 1) (34 :: rest) = .ok (.str s, more) := by
  have hvalue : value (depth + 1) (34 :: rest) = (stringTail rest >>= fun p => .ok (.str p.1, p.2)) := rfl
  rw [hvalue, h]
  rfl

theorem value_minus {n : Number} {rest more : List UInt8} (h : number false rest = .ok (n, more)) :
    value (depth + 1) (45 :: rest) = .ok (.num n, more) := by
  have hvalue : value (depth + 1) (45 :: rest) = (number false rest >>= fun p => .ok (.num p.1, p.2)) := rfl
  rw [hvalue, h]
  rfl

theorem value_arr {vs : List Value} {rest more : List UInt8}
    (h : items (value (depth + 1)) (rest.length + 1) true [] rest = .ok (vs, more)) :
    value (depth + 2) (91 :: rest) = .ok (.arr vs, more) := by
  have hvalue : value (depth + 2) (91 :: rest)
      = (items (value (depth + 1)) (rest.length + 1) true [] rest >>= fun p =>
          .ok (.arr p.1, p.2)) := rfl
  rw [hvalue, h]
  rfl

theorem value_obj {fs : List (String × Value)} {rest more : List UInt8}
    (h : fields (value (depth + 1)) Object.insert (rest.length + 1) true [] rest
      = .ok (fs, more)) :
    value (depth + 2) (123 :: rest) = .ok (.obj fs, more) := by
  have hvalue : value (depth + 2) (123 :: rest)
      = (fields (value (depth + 1)) Object.insert (rest.length + 1) true [] rest >>= fun p =>
          .ok (.obj p.1, p.2)) := rfl
  rw [hvalue, h]
  rfl

theorem ne_of_isDigit {b : UInt8} (h : isDigit b = true) {k : UInt8} (hk : isDigit k = false) :
    b ≠ k := by
  rintro rfl
  rw [h] at hk
  cases hk

theorem Opens.of_isDigit {b : UInt8} (h : isDigit b = true) : Opens b where
  not_blank := by
    simp [isBlankByte, ne_of_isDigit h (k := 32) rfl, ne_of_isDigit h (k := 10) rfl,
      ne_of_isDigit h (k := 9) rfl, ne_of_isDigit h (k := 13) rfl]
  not_bracket := ne_of_isDigit h rfl

theorem value_digit {b : UInt8} (hb : isDigit b = true) {n : Number} {rest more : List UInt8}
    (h : number true (b :: rest) = .ok (n, more)) :
    value (depth + 1) (b :: rest) = .ok (.num n, more) := by
  unfold value
  dsimp only
  rw [skipBlanks_cons (Opens.of_isDigit hb).not_blank]
  dsimp only
  rw [if_neg (ne_of_isDigit hb rfl), if_neg (ne_of_isDigit hb rfl), if_neg (ne_of_isDigit hb rfl),
    if_neg (ne_of_isDigit hb rfl), if_pos hb, h]
  rfl

/-- A value is written from a first byte on, and reads back up to what closes it. -/
structure ReadsBack (depth : Nat) (v : Value) : Prop where
  opens : ∃ b bytes, encode v.compact = b :: bytes ∧ Opens b
  reads : ∀ rest, Closes rest → value (depth + 1) (encode v.compact ++ rest) = .ok (v, rest)

namespace ReadsBack

theorem null : ReadsBack depth .null where
  opens := ⟨110, nullTail, by decide +kernel, ⟨rfl, by decide⟩⟩
  reads := by
    have htext : encode Value.null.compact = 110 :: nullTail := by decide +kernel
    intro rest _
    rw [htext]
    rfl

theorem bool (b : Bool) : ReadsBack depth (.bool b) where
  opens := by
    cases b
    · exact ⟨102, falseTail, by decide +kernel, ⟨rfl, by decide⟩⟩
    · exact ⟨116, trueTail, by decide +kernel, ⟨rfl, by decide⟩⟩
  reads := by
    have hfalse : encode (Value.bool false).compact = 102 :: falseTail := by decide +kernel
    have htrue : encode (Value.bool true).compact = 116 :: trueTail := by decide +kernel
    intro rest _
    cases b
    · rw [hfalse]
      rfl
    · rw [htrue]
      rfl

theorem natural {n : Nat} (hn : n < 2 ^ 64) : ReadsBack depth (.num (.int n)) := by
  have htext : encode (Value.num (.int n)).compact = digitBytes (Nat.toDigits 10 n) :=
    encode_repr n
  obtain ⟨c, cs, heq⟩ := List.exists_cons_of_ne_nil (Nat.toDigits_ne_nil (n := n) (b := 10))
  have hfirst : c.isDigit = true := by
    refine Nat.isDigit_of_mem_toDigits (n := n) (b := 10) (by decide) (by decide) ?_
    rw [heq]
    exact List.mem_cons_self
  have hcons : digitBytes (Nat.toDigits 10 n) = UInt8.ofNat c.toNat :: digitBytes cs := by
    rw [heq]
    rfl
  have hbyte := isDigit_ofNat hfirst
  refine ⟨⟨_, _, htext.trans hcons, .of_isDigit hbyte⟩, fun rest hrest => ?_⟩
  have hnumber := number_digitBytes true (Nat.le_of_lt_succ hn) hrest.digit?_eq_none
  rw [afterWhole_closes true n hrest, hcons, List.cons_append] at hnumber
  rw [htext, hcons, List.cons_append]
  exact value_digit hbyte hnumber

theorem negative {n : Nat} (hpos : 0 < n) (hn : n ≤ 2 ^ 63) :
    ReadsBack depth (.num (.int (-n))) := by
  have htext : encode (Value.num (.int (-n))).compact
      = 45 :: digitBytes (Nat.toDigits 10 n) := by
    obtain ⟨m, rfl⟩ : ∃ m, n = m + 1 := ⟨n - 1, by omega⟩
    have hminus : encode "-" = [45] := by decide +kernel
    have hrepr : (Value.num (.int (-(m + 1 : Nat)))).compact = "-" ++ toString (m + 1) := rfl
    rw [hrepr, encode_append, hminus, encode_repr]
    rfl
  refine ⟨⟨45, _, htext, ⟨rfl, by decide⟩⟩, fun rest hrest => ?_⟩
  have hwhole : ¬ (n = 0 ∨ Nat.pow 2 63 < n) := by
    rintro (h | h)
    · omega
    · exact absurd hn (Nat.not_le.mpr h)
  have hnumber := number_digitBytes false (n := n) (hn.trans (by decide)) hrest.digit?_eq_none
  rw [afterWhole_closes false n hrest, if_neg Bool.false_ne_true, if_neg hwhole] at hnumber
  rw [htext]
  exact value_minus hnumber

theorem int {i : Int} (hlow : -(2 ^ 63) ≤ i) (hhigh : i < 2 ^ 64) :
    ReadsBack depth (.num (.int i)) := by
  rcases Int.lt_or_le i 0 with hneg | hnonneg
  · have h : ReadsBack depth (.num (.int (-i.natAbs))) := negative (by omega) (by omega)
    rwa [Int.ofNat_natAbs_of_nonpos (Int.le_of_lt hneg), Int.neg_neg] at h
  · have h : ReadsBack depth (.num (.int i.natAbs)) := natural (by omega)
    rwa [Int.natAbs_of_nonneg hnonneg] at h

theorem str (s : String) : ReadsBack depth (.str s) where
  opens := ⟨34, _, encode_quoteString s, ⟨rfl, by decide⟩⟩
  reads := by
    intro rest _
    have htext : encode (Value.str s).compact ++ rest
        = 34 :: (escaped s.toList ++ 34 :: rest) := by
      rw [Value.compact, encode_quoteString]
      simp
    rw [htext]
    exact value_str (stringTail_escaped s rest)

theorem opens_append {v : Value} (h : ReadsBack depth v) (more : List UInt8) :
    ∃ b bytes, encode v.compact ++ more = b :: bytes ∧ Opens b := by
  obtain ⟨b, bytes, heq, hopens⟩ := h.opens
  exact ⟨b, bytes ++ more, by rw [heq, List.cons_append], hopens⟩

/-! ### Lists -/

/-- An item behind others. -/
def itemBytes (v : Value) : List UInt8 := 44 :: encode v.compact

theorem encode_compactItems (v : Value) (vs : List Value) :
    encode (compactItems (v :: vs)) = encode v.compact ++ vs.flatMap itemBytes := by
  induction vs generalizing v with
  | nil => simp [compactItems]
  | cons w vs ih =>
    have hcomma : encode "," = [44] := by decide +kernel
    simp [compactItems, hcomma, ih, itemBytes]

theorem closes_items (vs : List Value) (rest : List UInt8) :
    Closes (vs.flatMap itemBytes ++ 93 :: rest) := by
  intro b hb
  cases vs with
  | nil => exact Or.inr (Or.inl (Option.some.inj hb).symm)
  | cons v vs => exact Or.inl (Option.some.inj hb).symm

/-- Before another item stands a comma, and then the item. -/
theorem nextItem_item {v : Value} (h : ReadsBack depth v) (more : List UInt8) :
    nextItem false (itemBytes v ++ more) = .ok (some (encode v.compact ++ more)) := by
  obtain ⟨b, bytes, heq, hopens⟩ := h.opens_append more
  have hcomma : skipBlanks (44 :: (encode v.compact ++ more)) = 44 :: (encode v.compact ++ more) :=
    skipBlanks_cons rfl _
  rw [itemBytes, List.cons_append]
  unfold nextItem
  rw [hcomma, heq]
  dsimp only
  rw [if_neg (by decide), if_neg Bool.false_ne_true, if_pos rfl, skipBlanks_cons hopens.not_blank]
  dsimp only
  rw [if_neg hopens.not_bracket]

theorem nextItem_first {v : Value} (h : ReadsBack depth v) (more : List UInt8) :
    nextItem true (encode v.compact ++ more) = .ok (some (encode v.compact ++ more)) := by
  obtain ⟨b, bytes, heq, hopens⟩ := h.opens_append more
  unfold nextItem
  rw [heq, skipBlanks_cons hopens.not_blank]
  dsimp only
  rw [if_neg hopens.not_bracket, if_pos rfl]

/-- A list reads on with its next item. -/
theorem items_some {first : Bool} {bytes start more : List UInt8} {v : Value} (fuel : Nat)
    (done : List Value) (hnext : nextItem first bytes = .ok (some start))
    (hread : value (depth + 1) start = .ok (v, more)) :
    items (value (depth + 1)) (fuel + 1) first done bytes
      = items (value (depth + 1)) fuel false (v :: done) more := by
  rw [items, hnext]
  show (do let (v, rest) ← value (depth + 1) start; _) = _
  rw [hread]
  rfl

/-- The items behind the first read back. -/
theorem items_flatMap {vs : List Value} (h : ∀ v ∈ vs, ReadsBack depth v) (rest : List UInt8)
    {fuel : Nat} (hfuel : (vs.flatMap itemBytes ++ 93 :: rest).length ≤ fuel)
    (done : List Value) :
    items (value (depth + 1)) fuel false done (vs.flatMap itemBytes ++ 93 :: rest)
      = .ok (done.reverse ++ vs, rest) := by
  induction vs generalizing fuel done with
  | nil =>
    obtain ⟨fuel, rfl⟩ : ∃ n, fuel = n + 1 := ⟨fuel - 1, by simp at hfuel; omega⟩
    rw [List.append_nil]
    rfl
  | cons v vs ih =>
    obtain ⟨hv, hvs⟩ := List.forall_mem_cons.mp h
    rw [List.flatMap_cons, List.append_assoc, List.length_append] at hfuel
    have hitem : 0 < (itemBytes v).length := Nat.succ_pos _
    obtain ⟨fuel, rfl⟩ : ∃ n, fuel = n + 1 := ⟨fuel - 1, by omega⟩
    rw [List.flatMap_cons, List.append_assoc, items_some fuel done (nextItem_item hv _)
      (hv.reads _ (closes_items vs rest)), ih hvs (by omega)]
    simp

theorem arr {vs : List Value} (h : ∀ v ∈ vs, ReadsBack depth v) :
    ReadsBack (depth + 1) (.arr vs) := by
  have hopen : encode "[" = [91] := by decide +kernel
  have hclose : encode "]" = [93] := by decide +kernel
  have htext : encode (Value.arr vs).compact = 91 :: (encode (compactItems vs) ++ [93]) := by
    simp [Value.compact, hopen, hclose]
  refine ⟨⟨91, _, htext, ⟨rfl, by decide⟩⟩, fun rest _ => ?_⟩
  have hsplit : encode (Value.arr vs).compact ++ rest
      = 91 :: (encode (compactItems vs) ++ 93 :: rest) := by simp [htext]
  rw [hsplit]
  refine value_arr ?_
  cases vs with
  | nil =>
    have hempty : encode (compactItems []) = [] := by decide +kernel
    rw [hempty]
    rfl
  | cons v vs =>
    obtain ⟨hv, hvs⟩ := List.forall_mem_cons.mp h
    rw [encode_compactItems, List.append_assoc, items_some _ [] (nextItem_first hv _)
      (hv.reads _ (closes_items vs rest)), items_flatMap hvs rest (by simp)]
    rfl

/-! ### Objects -/

/-- A field from behind the opening quote of its key on. -/
def fieldTail (f : String × Value) : List UInt8 :=
  escaped f.1.toList ++ 34 :: 58 :: encode f.2.compact

/-- A field behind others. -/
def fieldBytes (f : String × Value) : List UInt8 := 44 :: 34 :: fieldTail f

theorem encode_compactFields (f : String × Value) (fs : List (String × Value)) :
    encode (compactFields (f :: fs)) = 34 :: (fieldTail f ++ fs.flatMap fieldBytes) := by
  have hcolon : encode ":" = [58] := by decide +kernel
  induction fs generalizing f with
  | nil => simp [compactFields, encode_quoteString, hcolon, fieldTail]
  | cons g fs ih =>
    have hcomma : encode "," = [44] := by decide +kernel
    simp [compactFields, encode_quoteString, hcolon, hcomma, ih, fieldTail, fieldBytes]

theorem closes_fields (fs : List (String × Value)) (rest : List UInt8) :
    Closes (fs.flatMap fieldBytes ++ 125 :: rest) := by
  intro b hb
  cases fs with
  | nil => exact Or.inr (Or.inr (Option.some.inj hb).symm)
  | cons f fs => exact Or.inl (Option.some.inj hb).symm

/-- A key above all others goes behind them. -/
theorem insert_append {key : String} {fs : Object} (h : ∀ f ∈ fs, f.1 < key) (v : Value) :
    Object.insert key v fs = fs ++ [(key, v)] := by
  induction fs with
  | nil => rfl
  | cons f fs ih =>
    obtain ⟨hf, hfs⟩ := List.forall_mem_cons.mp h
    rw [Object.insert, if_neg (String.lt_asymm hf), if_neg (ne_of_gt hf), ih hfs]
    rfl

/-- An object reads on with its next field. -/
theorem fields_some {first : Bool} {bytes : List UInt8} {f : String × Value}
    (hf : ReadsBack depth f.2) {more : List UInt8} (hmore : Closes more) (fuel : Nat)
    (done : Object) (hnext : nextKey first bytes = .ok (some (fieldTail f ++ more))) :
    fields (value (depth + 1)) Object.insert (fuel + 1) first done bytes
      = fields (value (depth + 1)) Object.insert fuel false (done.insert f.1 f.2) more := by
  have hkey : stringTail (fieldTail f ++ more) = .ok (f.1, 58 :: (encode f.2.compact ++ more)) := by
    rw [fieldTail, List.append_assoc]
    exact stringTail_escaped f.1 _
  rw [fields, hnext]
  show (stringTail (fieldTail f ++ more) >>= _) = _
  rw [hkey]
  show (value (depth + 1) (encode f.2.compact ++ more) >>= _) = _
  rw [hf.reads more hmore]
  rfl

/-- The fields behind the first read back. -/
theorem fields_flatMap {fs : List (String × Value)} (h : ∀ f ∈ fs, ReadsBack depth f.2)
    (rest : List UInt8) {fuel : Nat} (hfuel : (fs.flatMap fieldBytes ++ 125 :: rest).length ≤ fuel)
    (done : Object) (hsorted : (done ++ fs).Pairwise fun f g => f.1 < g.1) :
    fields (value (depth + 1)) Object.insert fuel false done (fs.flatMap fieldBytes ++ 125 :: rest)
      = .ok (done ++ fs, rest) := by
  induction fs generalizing fuel done with
  | nil =>
    obtain ⟨fuel, rfl⟩ : ∃ n, fuel = n + 1 := ⟨fuel - 1, by simp at hfuel; omega⟩
    rw [List.append_nil]
    rfl
  | cons f fs ih =>
    obtain ⟨hf, hfs⟩ := List.forall_mem_cons.mp h
    have hbelow : ∀ g ∈ done, g.1 < f.1 := fun g hg =>
      (List.pairwise_append.mp hsorted).2.2 g hg f List.mem_cons_self
    rw [List.flatMap_cons, List.append_assoc, List.length_append] at hfuel
    have hfield : 0 < (fieldBytes f).length := Nat.succ_pos _
    obtain ⟨fuel, rfl⟩ : ∃ n, fuel = n + 1 := ⟨fuel - 1, by omega⟩
    rw [List.append_cons] at hsorted
    rw [List.flatMap_cons, List.append_assoc,
      fields_some hf (closes_fields fs rest) fuel done rfl, insert_append hbelow,
      ih hfs (by omega) _ hsorted]
    simp

/-- An object reads back from behind its opening brace on. -/
theorem fields_compact {fs : List (String × Value)} (h : ∀ f ∈ fs, ReadsBack depth f.2)
    (hsorted : fs.Pairwise fun f g => f.1 < g.1) (rest : List UInt8) :
    fields (value (depth + 1)) Object.insert
        ((encode (compactFields fs) ++ 125 :: rest).length + 1) true []
        (encode (compactFields fs) ++ 125 :: rest)
      = .ok (fs, rest) := by
  cases fs with
  | nil =>
    have hempty : encode (compactFields []) = [] := by decide +kernel
    rw [hempty]
    rfl
  | cons f fs =>
    obtain ⟨hf, hfs⟩ := List.forall_mem_cons.mp h
    rw [encode_compactFields, List.cons_append, List.append_assoc,
      fields_some hf (closes_fields fs rest) _ [] rfl]
    exact fields_flatMap hfs rest (by simp; omega) [f] hsorted

theorem encode_obj (fs : List (String × Value)) (rest : List UInt8) :
    encode (Value.obj fs).compact ++ rest = 123 :: (encode (compactFields fs) ++ 125 :: rest) := by
  have hopen : encode "\x7b" = [123] := by decide +kernel
  have hclose : encode "\x7d" = [125] := by decide +kernel
  simp [Value.compact, hopen, hclose]

theorem obj {fs : List (String × Value)} (h : ∀ f ∈ fs, ReadsBack depth f.2)
    (hsorted : fs.Pairwise fun f g => f.1 < g.1) : ReadsBack (depth + 1) (.obj fs) where
  opens := by
    have htext := encode_obj fs []
    rw [List.append_nil] at htext
    exact ⟨123, _, htext, ⟨rfl, by decide⟩⟩
  reads := by
    intro rest _
    rw [encode_obj]
    exact value_obj (fields_compact h hsorted rest)

end ReadsBack

/-- A reader that leaves nothing unread has read the whole text. -/
theorem run_eq_ok {α : Type} {reader : Reader α} {bytes : List UInt8} {a : α}
    (h : reader bytes = .ok (a, [])) : run reader bytes = .ok a := by
  rw [run, h]
  rfl

end Reader

/-- A value of plain parts: whole numbers in the range of 64 bits, the keys of each object in
strictly ascending order, and lists and objects nested up to a depth. -/
inductive Value.Plain : Nat → Value → Prop where
  | null {depth : Nat} : Plain depth .null
  | bool {depth : Nat} (b : Bool) : Plain depth (.bool b)
  | int {depth : Nat} {i : Int} (low : -(2 ^ 63) ≤ i) (high : i < 2 ^ 64) :
    Plain depth (.num (.int i))
  | str {depth : Nat} (s : String) : Plain depth (.str s)
  | arr {depth : Nat} {items : List Value} (plain : ∀ v ∈ items, Plain depth v) :
    Plain (depth + 1) (.arr items)
  | obj {depth : Nat} {fields : List (String × Value)}
    (ascending : fields.Pairwise fun f g => f.1 < g.1) (plain : ∀ f ∈ fields, Plain depth f.2) :
    Plain (depth + 1) (.obj fields)

namespace Value.Plain

open Reader (ReadsBack)

theorem readsBack {depth : Nat} {v : Value} (h : v.Plain depth) : ReadsBack depth v := by
  induction h with
  | null => exact .null
  | bool b => exact .bool b
  | int hlow hhigh => exact .int hlow hhigh
  | str s => exact .str s
  | arr _ ih => exact .arr ih
  | obj hascending _ ih => exact .obj ih hascending

/-- **A plain value reads back** from its text. -/
theorem parse_compact {v : Value} (h : v.Plain (Reader.depthLimit - 1)) :
    Value.parse v.compact = .ok v := by
  have hread := h.readsBack.reads [] nofun
  rw [List.append_nil] at hread
  exact Reader.run_eq_ok hread

end Value.Plain

open Reader (ReadsBack) in
/-- **A plain object reads back** from its text. -/
theorem Object.parse_compact {o : Object} (h : (Value.obj o).Plain (Reader.depthLimit - 1)) :
    Object.parse (Value.obj o).compact = .ok o := by
  cases h with
  | obj hascending hplain =>
    have hread := ReadsBack.fields_compact (fun f hf => (hplain f hf).readsBack) hascending []
    refine Reader.run_eq_ok ?_
    have htext := ReadsBack.encode_obj o []
    rw [List.append_nil] at htext
    rw [htext]
    exact hread

end TaskCluster.Json
