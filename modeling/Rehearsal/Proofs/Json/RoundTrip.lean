import Mathlib.Data.List.DropRight
import Rehearsal.Proofs.Json.Leaves

/-!
# Values are read back

A value over many lines is read back as **the tree of the value** (`Json.written`): the same
items and members in the same order, texts as they are, integers as their numerals. Doubles are
left out (`isIntegral`), since no stored document holds one.

The reader stops where a value ends, so the statement is about a value *before whatever comes
after it* (`Reader.value?_pretty`), and its two companions are about the items and the members
of a value before a closing bracket. The three are one induction on the value. The reader's fuel
is no part of the argument but for a bound: twice as many calls as characters are enough, since
each call that reads something is paid for by a bracket, a comma or the break of a line.
-/

namespace Rehearsal.Json

/-! ## The tree of a value -/

/-- A number that is an integer. -/
def Number.isInt : Number → Bool
  | .int _ => true
  | .real _ => false

/-- **The numeral that a number is written as.** -/
def Number.literal (n : Number) : Literal :=
  ((Reader.numeral? (n.text.toList.map some)).map Prod.fst).getD (Literal.ofInt 0)

@[simp] theorem Number.literal_int (n : Int) : (Number.int n).literal = Literal.ofInt n := by
  have h := Reader.numeral?_toString n Reader.endsNumeral_nil
  rw [List.append_nil] at h
  rw [Number.literal, Number.text, h]
  rfl

mutual

/-- **The tree of a value.** -/
def written : Json → Written
  | .null => .null
  | .bool b => .bool b
  | .number n => .number n.literal
  | .string s => .string (some s)
  | .array items => .array (writtenItems items)
  | .object members => .object (writtenMembers members)

/-- The tree of each item. -/
def writtenItems : List Json → List Written
  | [] => []
  | j :: rest => written j :: writtenItems rest

/-- The tree of each member, under its name. -/
def writtenMembers : List (String × Json) → List (Option String × Written)
  | [] => []
  | (k, j) :: rest => (some k, written j) :: writtenMembers rest

end

theorem writtenItems_eq_map (items : List Json) : writtenItems items = items.map written := by
  induction items with
  | nil => rfl
  | cons j rest ih => rw [writtenItems, ih, List.map_cons]

theorem writtenMembers_eq_map (members : List (String × Json)) :
    writtenMembers members = members.map fun m => (some m.1, m.2.written) := by
  induction members with
  | nil => rfl
  | cons m rest ih => rw [writtenMembers, ih, List.map_cons]

mutual

/-- No number in the value is a double. -/
def isIntegral : Json → Bool
  | .number n => n.isInt
  | .array items => areIntegral items
  | .object members => membersIntegral members
  | .null => true
  | .bool _ => true
  | .string _ => true

/-- No number in the items is a double. -/
def areIntegral : List Json → Bool
  | [] => true
  | j :: rest => isIntegral j && areIntegral rest

/-- No number in the members is a double. -/
def membersIntegral : List (String × Json) → Bool
  | [] => true
  | (_, j) :: rest => isIntegral j && membersIntegral rest

end

theorem areIntegral_eq_all (items : List Json) : areIntegral items = items.all isIntegral := by
  induction items with
  | nil => rfl
  | cons j rest ih => rw [areIntegral, ih, List.all_cons]

theorem membersIntegral_eq_all (members : List (String × Json)) :
    membersIntegral members = members.all fun m => m.2.isIntegral := by
  induction members with
  | nil => rfl
  | cons m rest ih => rw [membersIntegral, ih, List.all_cons]

@[simp] theorem isIntegral_strings (ss : List String) : (strings ss).isIntegral = true := by
  simp [strings, isIntegral, areIntegral_eq_all]

namespace Reader

/-! ## Blanks -/

theorem skipBlanks_of_blanks {bs : List Symbol} (hbs : ∀ b ∈ bs, isBlank b = true)
    (cs : List Symbol) : skipBlanks (bs ++ cs) = skipBlanks cs := by
  rw [skipBlanks, skipBlanks, List.dropWhile_append_of_pos hbs]

theorem skipBlanks_cons_of_not_blank {c : Symbol} (hc : isBlank c = false) (cs : List Symbol) :
    skipBlanks (c :: cs) = c :: cs := by
  rw [skipBlanks, List.dropWhile_cons_of_neg (by simp [hc])]

@[simp] theorem skipBlanks_skipBlanks (cs : List Symbol) :
    skipBlanks (skipBlanks cs) = skipBlanks cs :=
  List.dropWhile_idempotent isBlank cs

/-- The start of a line is blank. -/
theorem skipBlanks_lineBreak (level : Nat) (cs : List Symbol) :
    skipBlanks ((lineBreak level).toList.map some ++ cs) = skipBlanks cs := by
  refine skipBlanks_of_blanks (fun b hb => ?_) cs
  rw [toList_lineBreak, List.map_cons, List.map_replicate] at hb
  rcases List.mem_cons.mp hb with rfl | hb
  · rfl
  · rw [List.eq_of_mem_replicate hb]
    rfl

/-- Blanks in front of a value are nothing to it. -/
theorem value?_skipBlanks (fuel : Nat) (cs : List Symbol) :
    value? fuel (skipBlanks cs) = value? fuel cs := by
  cases fuel with
  | zero => rw [value?, value?]
  | succ fuel => rw [value?, value?, skipBlanks_skipBlanks]

theorem items?_skipBlanks (fuel : Nat) (cs : List Symbol) :
    items? fuel (skipBlanks cs) = items? fuel cs := by
  cases fuel with
  | zero => rw [items?, items?]
  | succ fuel => rw [items?, items?, value?_skipBlanks]

theorem members?_skipBlanks (fuel : Nat) (cs : List Symbol) :
    members? fuel (skipBlanks cs) = members? fuel cs := by
  cases fuel with
  | zero => rw [members?, members?]
  | succ fuel => rw [members?, members?, skipBlanks_skipBlanks]

/-! ## Values before whatever comes after them -/

/-- What is read as a value does not start with a closing bracket. -/
theorem value?_bracket (fuel : Nat) (cs : List Symbol) : value? fuel (some ']' :: cs) = none := by
  cases fuel <;> rfl

/-- **A numeral is a value**: its first character begins no value of another kind. -/
theorem value?_of_numeral {fuel : Nat} {c : Char} {cs rest : List Symbol} {l : Literal}
    (hc : c = '-' ∨ c.isDigit = true) (h : numeral? (some c :: cs) = some (l, rest)) :
    value? (fuel + 1) (some c :: cs) = some (.number l, rest) := by
  have hne : ∀ d : Char, ¬(d = '-' ∨ d.isDigit = true) → c ≠ d := by
    rintro d hd rfl
    exact hd hc
  have hblank : isBlank (some c) = false := by
    simp [isBlank, hne ' ' (by decide), hne '\n' (by decide), hne '\r' (by decide),
      hne '\t' (by decide)]
  rw [value?, skipBlanks_cons_of_not_blank hblank]
  split
  · next heq => exact absurd (by simpa using congrArg List.head? heq) (hne '"' (by decide))
  · next heq => exact absurd (by simpa using congrArg List.head? heq) (hne '[' (by decide))
  · next heq => exact absurd (by simpa using congrArg List.head? heq) (hne '{' (by decide))
  · next heq => exact absurd (by simpa using congrArg List.head? heq) (hne 'n' (by decide))
  · next heq => exact absurd (by simpa using congrArg List.head? heq) (hne 't' (by decide))
  · next heq => exact absurd (by simpa using congrArg List.head? heq) (hne 'f' (by decide))
  · rw [h]
    rfl

theorem value?_open_bracket (fuel : Nat) (cs : List Symbol) :
    value? (fuel + 1) (some '[' :: cs) = match skipBlanks cs with
      | some ']' :: rest => some (.array [], rest)
      | rest => (items? fuel rest).map fun (items, rest) => (.array items, rest) := by
  rw [value?, skipBlanks_cons_of_not_blank (by decide)]
  rfl

theorem value?_open_brace (fuel : Nat) (cs : List Symbol) :
    value? (fuel + 1) (some '{' :: cs) = match skipBlanks cs with
      | some '}' :: rest => some (.object [], rest)
      | rest => (members? fuel rest).map fun (members, rest) => (.object members, rest) := by
  rw [value?, skipBlanks_cons_of_not_blank (by decide)]
  rfl

/-- Items between brackets are an array. -/
theorem value?_of_items {fuel : Nat} {cs rest : List Symbol} {ws : List Written}
    (h : items? fuel cs = some (ws, rest)) :
    value? (fuel + 1) (some '[' :: cs) = some (.array ws, rest) := by
  rw [← items?_skipBlanks] at h
  rw [value?_open_bracket]
  split
  · next hclose =>
    -- there would be no first item
    rw [hclose] at h
    cases fuel <;> simp [items?, value?_bracket] at h
  · rw [h]
    rfl

/-- Members between braces are an object. -/
theorem value?_of_members {fuel : Nat} {cs rest : List Symbol}
    {ms : List (Option String × Written)} (h : members? fuel cs = some (ms, rest)) :
    value? (fuel + 1) (some '{' :: cs) = some (.object ms, rest) := by
  rw [← members?_skipBlanks] at h
  rw [value?_open_brace]
  split
  · next hclose =>
    rw [hclose] at h
    cases fuel <;> simp [members?, skipBlanks, isBlank] at h
  · rw [h]
    rfl

/-- The last item. -/
theorem items?_last {fuel : Nat} {cs mid rest : List Symbol} {w : Written}
    (hvalue : value? fuel cs = some (w, mid)) (hmid : skipBlanks mid = some ']' :: rest) :
    items? (fuel + 1) cs = some ([w], rest) := by
  simp [items?, hvalue, hmid]

/-- An item with more after it. -/
theorem items?_cons {fuel : Nat} {cs mid more rest : List Symbol} {w : Written}
    {ws : List Written} (hvalue : value? fuel cs = some (w, mid))
    (hmid : skipBlanks mid = some ',' :: more) (hmore : items? fuel more = some (ws, rest)) :
    items? (fuel + 1) cs = some (w :: ws, rest) := by
  simp [items?, hvalue, hmid, hmore]

/-- A name and a colon, as a member starts. -/
def nameSymbols (k : String) : List Symbol := (quoted k).toList.map some ++ [some ':']

theorem nameSymbols_append (k : String) (cs : List Symbol) :
    nameSymbols k ++ cs
      = some '"' :: ((k.toList.flatMap escaped).map some ++ some '"' :: some ':' :: cs) := by
  simp [nameSymbols]

/-- A member on a line of its own starts with its name. -/
theorem skipBlanks_name (level : Nat) (k : String) (cs : List Symbol) :
    skipBlanks ((lineBreak level).toList.map some
        ++ ((quoted k).toList.map some ++ (": ".toList.map some ++ cs)))
      = nameSymbols k ++ some ' ' :: cs := by
  have hname : (quoted k).toList.map some ++ (": ".toList.map some ++ cs)
      = nameSymbols k ++ some ' ' :: cs := by
    simp [nameSymbols]
  rw [skipBlanks_lineBreak, hname, nameSymbols_append]
  exact skipBlanks_cons_of_not_blank rfl _

/-- The last member, whatever its name denotes. -/
theorem members?_of_last {fuel : Nat} {k : Option String} {cs name more mid rest : List Symbol}
    {w : Written} (hopen : skipBlanks cs = some '"' :: name)
    (hname : string? name = some (k, some ':' :: more)) (hvalue : value? fuel more = some (w, mid))
    (hmid : skipBlanks mid = some '}' :: rest) :
    members? (fuel + 1) cs = some ([(k, w)], rest) := by
  have hcolon : skipBlanks (some ':' :: more) = some ':' :: more :=
    skipBlanks_cons_of_not_blank rfl more
  simp [members?, hopen, hname, hcolon, hvalue, hmid]

/-- A member with more after it. -/
theorem members?_of_cons {fuel : Nat} {k : Option String}
    {cs name more mid others rest : List Symbol} {w : Written} {ms : List (Option String × Written)}
    (hopen : skipBlanks cs = some '"' :: name)
    (hname : string? name = some (k, some ':' :: more)) (hvalue : value? fuel more = some (w, mid))
    (hmid : skipBlanks mid = some ',' :: others)
    (hothers : members? fuel others = some (ms, rest)) :
    members? (fuel + 1) cs = some ((k, w) :: ms, rest) := by
  have hcolon : skipBlanks (some ':' :: more) = some ':' :: more :=
    skipBlanks_cons_of_not_blank rfl more
  simp [members?, hopen, hname, hcolon, hvalue, hmid, hothers]

theorem members?_last {fuel : Nat} {k : String} {cs more mid rest : List Symbol} {w : Written}
    (hname : skipBlanks cs = nameSymbols k ++ more) (hvalue : value? fuel more = some (w, mid))
    (hmid : skipBlanks mid = some '}' :: rest) :
    members? (fuel + 1) cs = some ([(some k, w)], rest) := by
  rw [nameSymbols_append] at hname
  exact members?_of_last hname (string?_escaped k _) hvalue hmid

theorem members?_cons {fuel : Nat} {k : String} {cs more mid others rest : List Symbol}
    {w : Written} {ms : List (Option String × Written)}
    (hname : skipBlanks cs = nameSymbols k ++ more) (hvalue : value? fuel more = some (w, mid))
    (hmid : skipBlanks mid = some ',' :: others)
    (hothers : members? fuel others = some (ms, rest)) :
    members? (fuel + 1) cs = some ((some k, w) :: ms, rest) := by
  rw [nameSymbols_append] at hname
  exact members?_of_cons hname (string?_escaped k _) hvalue hmid hothers

/-! ## Documents -/

theorem value?_blank (fuel : Nat) (cs : List Symbol) :
    value? fuel (some ' ' :: cs) = value? fuel cs := by
  rw [← value?_skipBlanks, show skipBlanks (some ' ' :: cs) = skipBlanks cs from rfl,
    value?_skipBlanks]

theorem value?_lineBreak (fuel level : Nat) (cs : List Symbol) :
    value? fuel ((lineBreak level).toList.map some ++ cs) = value? fuel cs := by
  rw [← value?_skipBlanks, skipBlanks_lineBreak, value?_skipBlanks]

/-- The items of an array over many lines. -/
def joinedItems (level : Nat) (items : List Json) : String :=
  ",".intercalate (itemLines level items)

/-- The members of an object over many lines. -/
def joinedMembers (level : Nat) (members : List (String × Json)) : String :=
  ",".intercalate (memberLines level members)

theorem joinedItems_singleton (level : Nat) (j : Json) :
    joinedItems level [j] = lineBreak level ++ j.pretty level := by
  simp [joinedItems, itemLines]

theorem joinedItems_cons_cons (level : Nat) (j j' : Json) (items : List Json) :
    joinedItems level (j :: j' :: items)
      = lineBreak level ++ j.pretty level ++ "," ++ joinedItems level (j' :: items) := by
  simp [joinedItems, itemLines, String.intercalate_cons_cons]

theorem joinedMembers_singleton (level : Nat) (k : String) (j : Json) :
    joinedMembers level [(k, j)] = lineBreak level ++ quoted k ++ ": " ++ j.pretty level := by
  simp [joinedMembers, memberLines]

theorem joinedMembers_cons_cons (level : Nat) (k : String) (j : Json) (m : String × Json)
    (members : List (String × Json)) :
    joinedMembers level ((k, j) :: m :: members)
      = lineBreak level ++ quoted k ++ ": " ++ j.pretty level ++ ","
        ++ joinedMembers level (m :: members) := by
  simp [joinedMembers, memberLines, String.intercalate_cons_cons]

/-- A word of the notation is read back. -/
theorem word?_append (word : String) (rest : List Symbol) :
    word? word (word.toList.map some ++ rest) = some rest := by
  have hlength : word.length = (word.toList.map some).length := by
    rw [List.length_map, String.length_toList]
  rw [word?, if_pos (by simp), hlength, List.drop_left]

theorem value?_null (fuel : Nat) (rest : List Symbol) :
    value? (fuel + 1) ("null".toList.map some ++ rest) = some (.null, rest) := by
  show (word? "ull" ("ull".toList.map some ++ rest)).map _ = _
  rw [word?_append]
  rfl

theorem value?_boolText (fuel : Nat) (b : Bool) (rest : List Symbol) :
    value? (fuel + 1) ((boolText b).toList.map some ++ rest) = some (.bool b, rest) := by
  cases b with
  | true =>
    show (word? "rue" ("rue".toList.map some ++ rest)).map _ = _
    rw [word?_append]
    rfl
  | false =>
    show (word? "alse" ("alse".toList.map some ++ rest)).map _ = _
    rw [word?_append]
    rfl

theorem value?_quoted (fuel : Nat) (s : String) (rest : List Symbol) :
    value? (fuel + 1) ((quoted s).toList.map some ++ rest) = some (.string (some s), rest) := by
  have hquoted : (quoted s).toList.map some ++ rest
      = some '"' :: ((s.toList.flatMap escaped).map some ++ some '"' :: rest) := by simp
  rw [hquoted, value?, skipBlanks_cons_of_not_blank rfl]
  simp [string?_escaped]

theorem value?_toString (fuel : Nat) (n : Int) {rest : List Symbol} (hrest : EndsNumeral rest) :
    value? (fuel + 1) ((toString n).toList.map some ++ rest)
      = some (.number (Literal.ofInt n), rest) := by
  have h := numeral?_toString n hrest
  have hhead : ∀ c ∈ (toString n).toList.head?, c = '-' ∨ c.isDigit = true := by
    intro c hc
    rw [toList_toString_int] at hc
    split at hc
    · exact Or.inl (by simpa using hc.symm)
    · exact Or.inr (isDigit_of_mem_toDigits (List.mem_of_mem_head? hc))
  cases hn : (toString n).toList with
  | nil =>
    rw [toList_toString_int] at hn
    exact absurd (List.append_eq_nil_iff.mp hn).2 Nat.toDigits_ne_nil
  | cons c cs =>
    rw [hn] at h hhead
    exact value?_of_numeral (hhead c rfl) h

/-- The text of an array that is not empty. -/
theorem toList_pretty_array (level : Nat) (j : Json) (items : List Json) :
    ((Json.array (j :: items)).pretty level).toList
      = '[' :: ((joinedItems (level + 1) (j :: items)).toList
        ++ ((lineBreak level).toList ++ [']'])) := by
  rw [pretty]
  · simp [joinedItems]
  · simp

/-- The text of an object that is not empty. -/
theorem toList_pretty_object (level : Nat) (m : String × Json) (members : List (String × Json)) :
    ((Json.object (m :: members)).pretty level).toList
      = '{' :: ((joinedMembers (level + 1) (m :: members)).toList
        ++ ((lineBreak level).toList ++ ['}'])) := by
  rw [pretty]
  · simp [joinedMembers]
  · simp

mutual

/-- **A value over many lines is read back**, whatever comes after it. -/
theorem value?_pretty : ∀ (j : Json) (level fuel : Nat) (rest : List Symbol),
    j.isIntegral = true → EndsNumeral rest → 2 * (j.pretty level).toList.length ≤ fuel + 1 →
    value? (fuel + 1) ((j.pretty level).toList.map some ++ rest) = some (j.written, rest)
  | .null, _, fuel, rest, _, _, _ => value?_null fuel rest
  | .bool b, _, fuel, rest, _, _, _ => value?_boolText fuel b rest
  | .number (.int n), _, fuel, rest, _, hrest, _ => by
    rw [written, Number.literal_int]
    exact value?_toString fuel n hrest
  | .number (.real _), _, _, _, hj, _, _ => by
    simp [isIntegral, Number.isInt] at hj
  | .string s, _, fuel, rest, _, _, _ => value?_quoted fuel s rest
  | .array [], level, fuel, rest, _, _, _ => by
    have htext : ((Json.array []).pretty level).toList.map some ++ rest
        = some '[' :: some ']' :: rest := by simp [pretty]
    rw [htext, value?_open_bracket, skipBlanks_cons_of_not_blank rfl]
    rfl
  | .array (j :: items), level, fuel, rest, hj, _, hfuel => by
    rw [toList_pretty_array] at hfuel ⊢
    rw [List.map_cons, List.cons_append, List.map_append, List.append_assoc]
    refine value?_of_items (items?_joinedItems (j :: items) (level + 1) fuel _ rest (by simp) hj
      (by simp [inNumeral]) ?_ ?_)
    · rw [List.map_append, List.append_assoc, skipBlanks_lineBreak]
      exact skipBlanks_cons_of_not_blank rfl rest
    · simp only [List.length_cons, List.length_append] at hfuel
      omega
  | .object [], level, fuel, rest, _, _, _ => by
    have htext : ((Json.object []).pretty level).toList.map some ++ rest
        = some '{' :: some '}' :: rest := by simp [pretty]
    rw [htext, value?_open_brace, skipBlanks_cons_of_not_blank rfl]
    rfl
  | .object (m :: members), level, fuel, rest, hj, _, hfuel => by
    rw [toList_pretty_object] at hfuel ⊢
    rw [List.map_cons, List.cons_append, List.map_append, List.append_assoc]
    refine value?_of_members (members?_joinedMembers (m :: members) (level + 1) fuel _ rest
      (by simp) hj (by simp [inNumeral]) ?_ ?_)
    · rw [List.map_append, List.append_assoc, skipBlanks_lineBreak]
      exact skipBlanks_cons_of_not_blank rfl rest
    · simp only [List.length_cons, List.length_append] at hfuel
      omega

theorem items?_joinedItems : ∀ (items : List Json) (level fuel : Nat) (mid rest : List Symbol),
    items ≠ [] → areIntegral items = true → EndsNumeral mid →
    skipBlanks mid = some ']' :: rest → 2 * (joinedItems level items).toList.length ≤ fuel →
    items? fuel ((joinedItems level items).toList.map some ++ mid)
      = some (writtenItems items, rest)
  | [], _, _, _, _, hne, _, _, _, _ => absurd rfl hne
  | [j], level, fuel, mid, rest, _, hj, hends, hmid, hfuel => by
    have hj' : j.isIntegral = true := by simpa [areIntegral] using hj
    rw [joinedItems_singleton, String.toList_append] at hfuel ⊢
    rw [List.length_append, toList_lineBreak, List.length_cons] at hfuel
    obtain ⟨fuel, rfl⟩ : ∃ n, fuel = n + 2 := Nat.exists_eq_add_of_le' (by omega)
    rw [List.map_append, List.append_assoc]
    refine items?_last ?_ hmid
    rw [value?_lineBreak]
    exact value?_pretty j level fuel mid hj' hends (by omega)
  | j :: j' :: items, level, fuel, mid, rest, _, hj, hends, hmid, hfuel => by
    have hj' : j.isIntegral = true ∧ areIntegral (j' :: items) = true := by
      simpa [areIntegral] using hj
    have hcomma : ",".toList = [','] := rfl
    rw [joinedItems_cons_cons] at hfuel ⊢
    simp only [String.toList_append, hcomma] at hfuel ⊢
    simp only [List.length_append, toList_lineBreak level, List.length_cons] at hfuel
    obtain ⟨fuel, rfl⟩ : ∃ n, fuel = n + 2 := Nat.exists_eq_add_of_le' (by omega)
    simp only [List.map_append, List.append_assoc]
    refine items?_cons ?_ (skipBlanks_cons_of_not_blank rfl _)
      (items?_joinedItems (j' :: items) level (fuel + 1) mid rest (by simp) hj'.2 hends hmid
        (by omega))
    rw [value?_lineBreak]
    exact value?_pretty j level fuel _ hj'.1 (by simp [inNumeral]) (by omega)

theorem members?_joinedMembers : ∀ (members : List (String × Json)) (level fuel : Nat)
    (mid rest : List Symbol),
    members ≠ [] → membersIntegral members = true → EndsNumeral mid →
    skipBlanks mid = some '}' :: rest → 2 * (joinedMembers level members).toList.length ≤ fuel →
    members? fuel ((joinedMembers level members).toList.map some ++ mid)
      = some (writtenMembers members, rest)
  | [], _, _, _, _, hne, _, _, _, _ => absurd rfl hne
  | [(k, j)], level, fuel, mid, rest, _, hj, hends, hmid, hfuel => by
    have hj' : j.isIntegral = true := by simpa [membersIntegral] using hj
    rw [joinedMembers_singleton] at hfuel ⊢
    simp only [String.toList_append] at hfuel ⊢
    simp only [List.length_append, toList_lineBreak level, List.length_cons] at hfuel
    obtain ⟨fuel, rfl⟩ : ∃ n, fuel = n + 2 := Nat.exists_eq_add_of_le' (by omega)
    simp only [List.map_append, List.append_assoc]
    refine members?_last (skipBlanks_name level k _) ?_ hmid
    rw [value?_blank]
    exact value?_pretty j level fuel mid hj' hends (by omega)
  | (k, j) :: m :: members, level, fuel, mid, rest, _, hj, hends, hmid, hfuel => by
    have hj' : j.isIntegral = true ∧ membersIntegral (m :: members) = true := by
      simpa [membersIntegral] using hj
    have hcomma : ",".toList = [','] := rfl
    rw [joinedMembers_cons_cons] at hfuel ⊢
    simp only [String.toList_append, hcomma] at hfuel ⊢
    simp only [List.length_append, toList_lineBreak level, List.length_cons] at hfuel
    obtain ⟨fuel, rfl⟩ : ∃ n, fuel = n + 2 := Nat.exists_eq_add_of_le' (by omega)
    simp only [List.map_append, List.append_assoc]
    refine members?_cons (skipBlanks_name level k _) ?_ (skipBlanks_cons_of_not_blank rfl _)
      (members?_joinedMembers (m :: members) level (fuel + 1) mid rest (by simp) hj'.2 hends hmid
        (by omega))
    rw [value?_blank]
    exact value?_pretty j level fuel _ hj'.1 (by simp [inNumeral]) (by omega)

end

/-- **The document of a value is read back** as the tree of the value. -/
theorem read?_document (j : Json) (hj : j.isIntegral = true) :
    read? (j.document.toList.map some) = some j.written := by
  have h : value? _ (j.document.toList.map some ++ []) = _ :=
    value?_pretty j 0 (2 * (j.document.toList.map some).length + 1) [] hj
    endsNumeral_nil (by rw [List.length_map, document]; omega)
  rw [List.append_nil] at h
  rw [read?, h]
  rfl

end Reader

/-- **The octets of a document are read back** as the tree of the value. -/
theorem ofOctets?_document (j : Json) (hj : j.isIntegral = true) :
    Written.ofOctets? j.document.toUTF8 = some j.written := by
  rw [Written.ofOctets?_toUTF8, Written.ofText?, Reader.read?_document j hj]

/-! ## What the tree of a value says -/

/-- What is read back one by one is read back as a list. -/
theorem mapM_map_of_some {α β γ : Type} {read : β → Option γ} {write : α → β} {x : α → γ}
    (h : ∀ a, read (write a) = some (x a)) (as : List α) :
    (as.map write).mapM read = some (as.map x) := by
  induction as with
  | nil => rfl
  | cons a rest ih =>
    rw [List.map_cons, List.mapM_cons, h, ih]
    rfl

/-- The members of a value are those of its tree. -/
theorem members?_written_object (members : List (String × Json)) :
    (object members).written.members? = some (members.map fun m => (m.1, m.2.written)) := by
  rw [written, writtenMembers_eq_map, Written.members?]
  refine mapM_map_of_some (fun m => ?_) members
  rfl

theorem text?_written_string (s : String) : (string s).written.text? = some s := rfl

theorem texts?_written_strings (ss : List String) : (strings ss).written.texts? = some ss := by
  rw [strings, written, writtenItems_eq_map]
  show ((ss.map string).map written).mapM Written.text? = some ss
  rw [List.map_map]
  exact (mapM_map_of_some text?_written_string ss).trans (by rw [List.map_id'])

theorem value?_written_strings (levels : Nat) (ss : List String) :
    (strings ss).written.value? (levels + 1) = some (strings ss) := by
  have hvalues : Written.values? levels (writtenItems (ss.map string)) = some (ss.map string) := by
    induction ss with
    | nil => rfl
    | cons s rest ih =>
      rw [List.map_cons, writtenItems, Written.values?, ih]
      rfl
  rw [strings, written, Written.value?, if_neg (Nat.succ_ne_zero levels)]
  simp [hvalues]

end Rehearsal.Json
