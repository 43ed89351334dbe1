import StackSync.Json.Parser
import StackSync.Json.Printer
import StackSync.Proofs.Json.Fields
import StackSync.Proofs.Text.Numerals

/-!
# JSON text is read as it was written

A reader that meets the text of a value takes exactly that text and leaves what follows, as long as
this cannot go on with the number in front of it: a comma, a closing bracket or the end. Strings are
read back character by character, so it does not matter what is in them. For arrays and objects the
reader is followed along the texts between the commas, and the fields of an object come back in
their order, since each is put behind those that were read before it. The fuel that the reader is
given is never less than the text that is left.
-/

namespace StackSync

namespace Json

/-- The text after a value: the end, or what comes next in the array or the object around it. -/
def Follows (rest : List Char) : Prop := ∀ c ∈ rest.head?, c = ',' ∨ c = ']' ∨ c = '\x7d'

theorem Follows.endsDigits {rest : List Char} (h : Follows rest) : Text.EndsDigits rest := by
  intro c hc
  rcases h c hc with rfl | rfl | rfl <;> rfl

/-! ## Numbers -/

section

variable {rest : List Char}

theorem digits?_toDigits (h : Text.EndsDigits rest) (n : Nat) :
    digits? (Nat.toDigits 10 n ++ rest) = some (Nat.toDigits 10 n, rest) := by
  rw [digits?, Text.takeWhile_toDigits h, Text.dropWhile_toDigits h]
  cases hdigits : Nat.toDigits 10 n with
  | nil => exact absurd hdigits Nat.toDigits_ne_nil
  | cons c cs => rfl

theorem fraction?_of_follows (h : Follows rest) : fraction? rest = some (none, rest) := by
  cases rest with
  | nil => rfl
  | cons c cs => rcases h c rfl with rfl | rfl | rfl <;> rfl

theorem exponent?_of_follows (h : Follows rest) : exponent? rest = some (none, rest) := by
  cases rest with
  | nil => rfl
  | cons c cs => rcases h c rfl with rfl | rfl | rfl <;> rfl

theorem not_padded_toDigits (n : Nat) :
    ¬((Nat.toDigits 10 n).head? = some '0' ∧ 1 < (Nat.toDigits 10 n).length) := by
  rintro ⟨hzero, hlength⟩
  rcases Nat.eq_zero_or_pos n with rfl | hpos
  · exact absurd hlength (by decide)
  · exact Text.head?_toDigits_ne_zero hpos hzero

/-- A number that is digits behind its sign, if it has one. -/
theorem number?_of_sign (h : Follows rest) {s : List Char} {negative : Bool} {n : Nat}
    (hsign : (s = '-' :: Nat.toDigits 10 n ++ rest ∧ negative = true) ∨
      (s = Nat.toDigits 10 n ++ rest ∧ negative = false)) :
    number? s = (ofParts? negative (Nat.toDigits 10 n) none none).map (·, rest) := by
  unfold number?
  split
  next found behind hsplit =>
  obtain ⟨rfl, rfl⟩ : found = negative ∧ behind = Nat.toDigits 10 n ++ rest := by
    rcases hsign with ⟨rfl, rfl⟩ | ⟨rfl, rfl⟩
    · cases hsplit
      exact ⟨rfl, rfl⟩
    · split at hsplit
      · next hdash => exact absurd hdash Text.digits_ne_dash_cons
      · cases hsplit
        exact ⟨rfl, rfl⟩
  simp only [digits?_toDigits h.endsDigits, fraction?_of_follows h, exponent?_of_follows h,
    if_neg (not_padded_toDigits n), Option.bind_eq_bind, Option.bind_some]
  cases ofParts? found (Nat.toDigits 10 n) none none <;> rfl

/-- The integers that are read exactly: those of a machine word, with a sign or without. -/
def FitsWord (i : Int) : Prop := -9223372036854775808 ≤ i ∧ i < 18446744073709551616

theorem number?_toString {i : Int} (hrange : FitsWord i) (h : Follows rest) :
    number? ((toString i).toList ++ rest) = some (.integer i, rest) := by
  unfold FitsWord at hrange
  rw [Text.toList_toString_int]
  split
  · next hpos =>
    have hword : i.toNat < UInt64.size := by
      show i.toNat < 2 ^ 64
      omega
    rw [number?_of_sign h (.inr ⟨rfl, rfl⟩), ofParts?, Text.digitsValue_toDigits]
    simp only [Bool.not_false, Bool.true_and, hword, decide_true, if_true, Option.map_some,
      Int.toNat_of_nonneg hpos]
  · next hneg =>
    have hword : (-i).toNat ≤ 1 <<< 63 := by
      show (-i).toNat ≤ 2 ^ 63
      omega
    have hpos : 0 < (-i).toNat := by omega
    have hback : -((-i).toNat : Int) = i := by omega
    rw [number?_of_sign h (.inl ⟨rfl, rfl⟩), ofParts?, Text.digitsValue_toDigits]
    simp only [Bool.not_true, Bool.false_and, Bool.false_eq_true, Bool.true_and, hword, hpos,
      decide_true, if_true, if_false, Option.map_some, hback]

/-! ## Strings -/

theorem codeUnit?_control {n : Nat} (h : n < 32) :
    codeUnit? '0' '0' (Text.hexDigit (n / 16)) (Text.hexDigit (n % 16)) = some n := by
  have hzero : Text.hexValue? '0' = some 0 := rfl
  simp only [codeUnit?, hzero, Text.hexValue?_hexDigit (show n / 16 < 16 by omega),
    Text.hexValue?_hexDigit (show n % 16 < 16 by omega), Option.bind_eq_bind, Option.bind_some,
    Option.pure_def, Option.some.injEq]
  omega

/-- A character is read back from what is written for it. -/
theorem stringBody_escapeChar (c : Char) (acc s : List Char) :
    stringBody acc (escapeChar c ++ s) = stringBody (c :: acc) s := by
  unfold escapeChar
  split
  -- the seven characters with an escape of their own
  iterate 7 rfl
  next hquote hslash _ _ _ _ _ =>
  split
  · next hcontrol =>
    simp only [List.cons_append, List.nil_append]
    rw [stringBody, codeUnit?_control hcontrol]
    simp only [Char.ofNat_toNat]
    rw [if_neg (by omega), if_neg (by omega)]
  · next hplain =>
    simp only [List.cons_append, List.nil_append]
    rw [stringBody, if_neg hplain]
    · exact hquote
    · exact fun _ _ _ _ _ h _ => hslash h
    · exact fun _ _ h _ => hslash h

theorem stringBody_flatMap (cs acc s : List Char) :
    stringBody acc (cs.flatMap escapeChar ++ '"' :: s) =
      some (String.ofList (acc.reverse ++ cs), s) := by
  induction cs generalizing acc with
  | nil => rw [List.append_nil]; rfl
  | cons c rest ih =>
    rw [List.flatMap_cons, List.append_assoc, stringBody_escapeChar, ih, List.reverse_cons,
      List.append_assoc]
    rfl

theorem toList_quote (text : String) (s : List Char) :
    (quote text).toList ++ s = '"' :: (text.toList.flatMap escapeChar ++ '"' :: s) := by
  have hmark : "\"".toList = ['"'] := rfl
  simp only [quote, String.toList_append, String.toList_ofList, hmark, List.append_assoc,
    List.cons_append, List.nil_append]

/-- What stands behind the opening quote of a text is read as the text. -/
theorem stringBody_text (text : String) (s : List Char) :
    stringBody [] (text.toList.flatMap escapeChar ++ '"' :: s) = some (text, s) := by
  rw [stringBody_flatMap, List.reverse_nil, List.nil_append, String.ofList_toList]

end

/-! ## Values -/

/-- The values whose text is read back: the integers fit a word, with or without a sign, and the
fields of objects stand in their order. -/
inductive Regular : Json → Prop
  | null : Regular .null
  | bool (b : Bool) : Regular (.bool b)
  | integer {i : Int} (range : FitsWord i) : Regular (.integer i)
  | string (text : String) : Regular (.string text)
  | array {items : List Json} (each : ∀ item ∈ items, Regular item) : Regular (.array items)
  | object {fields : Fields} (sorted : fields.Sorted) (each : ∀ e ∈ fields, Regular e.2) :
      Regular (.object fields)

/-- The text of the value is read as the value, whatever follows it. -/
def ReadBack (j : Json) : Prop :=
  ∀ fuel rest, Follows rest → (print j).toList.length ≤ fuel →
    value fuel ((print j).toList ++ rest) = some (j, rest)

/-- A text that begins with a mark which no blank and no closing bracket is. -/
def Opens (s : List Char) : Prop := ∃ c cs, s = c :: cs ∧ isSpace c = false ∧ c ≠ ']'

theorem printItems_eq (items : List Json) : printItems items = items.map print := by
  induction items with
  | nil => rfl
  | cons item rest ih => rw [printItems, ih, List.map_cons]

/-- A field as it is printed. -/
def fieldText (e : String × Json) : String := quote e.1 ++ ":" ++ print e.2

theorem printFields_eq (fields : Fields) : printFields fields = fields.map fieldText := by
  induction fields with
  | nil => rfl
  | cons field rest ih =>
    rw [printFields, ih, List.map_cons]
    rfl

/-- A number begins with a digit or a dash, and nothing else does. -/
def OpensNumber (c : Char) : Prop := c = '-' ∨ Text.isDigit c = true

theorem toString_int_cons (i : Int) : ∃ c cs, (toString i).toList = c :: cs ∧ OpensNumber c := by
  rw [Text.toList_toString_int]
  split
  · cases hdigits : Nat.toDigits 10 i.toNat with
    | nil => exact absurd hdigits Nat.toDigits_ne_nil
    | cons c cs =>
      refine ⟨c, cs, rfl, .inr (Text.isDigit_of_mem_toDigits (n := i.toNat) ?_)⟩
      rw [hdigits]
      exact List.mem_cons_self
  · exact ⟨'-', _, rfl, .inl rfl⟩

theorem OpensNumber.not_space {c : Char} (h : OpensNumber c) : isSpace c = false := by
  rw [Bool.eq_false_iff]
  intro hspace
  simp only [isSpace, Bool.or_eq_true, beq_iff_eq] at hspace
  rcases hspace with ((rfl | rfl) | rfl) | rfl <;> rcases h with h | h <;> cases h

theorem print_array (items : List Json) (rest : List Char) :
    (print (.array items)).toList ++ rest =
      '[' :: ((",".intercalate (items.map print)).toList ++ ']' :: rest) := by
  have hopen : "[".toList = ['['] := rfl
  have hclose : "]".toList = [']'] := rfl
  simp only [print, printItems_eq, String.toList_append, hopen, hclose, List.append_assoc,
    List.cons_append, List.nil_append]

theorem print_object (fields : Fields) (rest : List Char) :
    (print (.object fields)).toList ++ rest =
      '\x7b' :: ((",".intercalate (fields.map fieldText)).toList ++
        '\x7d' :: rest) := by
  have hopen : "\x7b".toList = ['\x7b'] := rfl
  have hclose : "\x7d".toList = ['\x7d'] := rfl
  simp only [print, printFields_eq, String.toList_append, hopen, hclose, List.append_assoc,
    List.cons_append, List.nil_append]

theorem opens_print {j : Json} (h : Regular j) (rest : List Char) :
    Opens ((print j).toList ++ rest) := by
  cases h with
  | null => exact ⟨'n', _, rfl, rfl, by decide⟩
  | bool b =>
    cases b with
    | true => exact ⟨'t', _, rfl, rfl, by decide⟩
    | false => exact ⟨'f', _, rfl, rfl, by decide⟩
  | @integer i range =>
    obtain ⟨c, cs, htext, hopens⟩ := toString_int_cons i
    refine ⟨c, cs ++ rest, ?_, hopens.not_space, ?_⟩
    · rw [print, htext, List.cons_append]
    · rintro rfl
      rcases hopens with h | h <;> cases h
  | string text => exact ⟨'"', _, toList_quote text rest, rfl, by decide⟩
  | @array items each => exact ⟨'[', _, print_array items rest, rfl, by decide⟩
  | @object fields sorted each => exact ⟨'\x7b', _, print_object fields rest, rfl, by decide⟩

theorem Opens.skipSpace {s : List Char} (h : Opens s) : skipSpace s = s := by
  obtain ⟨c, cs, rfl, hspace, -⟩ := h
  exact List.dropWhile_cons_of_neg (by rw [hspace]; exact Bool.false_ne_true)

theorem value_of_opensNumber {c : Char} (h : OpensNumber c) (fuel : Nat) (cs : List Char) :
    value (fuel + 1) (c :: cs) = number? (c :: cs) := by
  have hskip : Json.skipSpace (c :: cs) = c :: cs :=
    List.dropWhile_cons_of_neg (by rw [h.not_space]; exact Bool.false_ne_true)
  rw [value, hskip]
  split
  all_goals first
    | rfl
    | next heq => cases heq; rcases h with h | h <;> cases h

theorem follows_cons {c : Char} (h : c = ',' ∨ c = ']' ∨ c = '\x7d') (rest : List Char) :
    Follows (c :: rest) := by
  intro d hd
  cases hd
  exact h

/-- Texts in a row, with commas between them. -/
theorem toList_intercalate_cons (text next : String) (more : List String) :
    (",".intercalate (text :: next :: more)).toList =
      text.toList ++ ',' :: (",".intercalate (next :: more)).toList := by
  have hcomma : ",".toList = [','] := rfl
  rw [String.intercalate_cons_cons, String.toList_append, String.toList_append, hcomma,
    List.append_assoc]
  rfl

/-- Items that are read back one by one are read as a whole. -/
theorem items_text {l : List Json} (each : ∀ item ∈ l, ReadBack item) (hne : l ≠ [])
    (acc : List Json) (fuel : Nat) (rest : List Char)
    (hfuel : (",".intercalate (l.map print)).toList.length < fuel) :
    items fuel acc ((",".intercalate (l.map print)).toList ++ ']' :: rest) =
      some (.array (acc.reverse ++ l), rest) := by
  induction l generalizing acc fuel with
  | nil => exact absurd rfl hne
  | cons item more ih =>
    obtain ⟨fuel, rfl⟩ : ∃ n, fuel = n + 1 := ⟨fuel - 1, by omega⟩
    have hitem := each item List.mem_cons_self
    cases more with
    | nil =>
      rw [List.map_cons, List.map_nil, String.intercalate_singleton] at hfuel ⊢
      have hvalue := hitem fuel (']' :: rest) (follows_cons (.inr (.inl rfl)) _) (by omega)
      have hskip : skipSpace (']' :: rest) = ']' :: rest := rfl
      simp only [items, hvalue, hskip, List.reverse_cons]
    | cons next tail =>
      rw [List.map_cons, List.map_cons, toList_intercalate_cons, ← List.map_cons] at hfuel ⊢
      rw [List.length_append, List.length_cons] at hfuel
      rw [List.append_assoc, List.cons_append]
      have hvalue := hitem fuel (',' :: ((",".intercalate ((next :: tail).map print)).toList ++
        ']' :: rest)) (follows_cons (.inl rfl) _) (by omega)
      have hskip : ∀ s, skipSpace (',' :: s) = ',' :: s := fun _ => rfl
      have hmore := ih (fun x hx => each x (List.mem_cons_of_mem _ hx)) (List.cons_ne_nil _ _)
        (item :: acc) fuel (by omega)
      simp only [items, hvalue, hskip, hmore, List.reverse_cons, List.append_assoc,
        List.singleton_append]

theorem toList_fieldText (e : String × Json) (s : List Char) :
    (fieldText e).toList ++ s =
      '"' :: (e.1.toList.flatMap escapeChar ++ '"' :: ':' :: ((print e.2).toList ++ s)) := by
  have hcolon : ":".toList = [':'] := rfl
  rw [fieldText, String.toList_append, String.toList_append, hcolon, List.append_assoc,
    List.append_assoc, toList_quote]
  rfl

theorem length_fieldText (e : String × Json) :
    (print e.2).toList.length < (fieldText e).toList.length := by
  have hcolon : ":".toList = [':'] := rfl
  rw [fieldText, String.toList_append, String.toList_append, hcolon, List.length_append,
    List.length_append, List.length_singleton]
  omega

/-- A field is read through to its value. -/
theorem fields_fieldText (fuel : Nat) (acc : Fields) (e : String × Json) (s : List Char) :
    fields (fuel + 1) acc ((fieldText e).toList ++ s) =
      match value fuel ((print e.2).toList ++ s) with
      | none => none
      | some (item, rest) =>
        match skipSpace rest with
        | ',' :: rest => fields fuel (Fields.insert e.1 item acc) rest
        | '\x7d' :: rest => some (.object (Fields.insert e.1 item acc), rest)
        | _ => none := by
  have hkey := stringBody_text e.1 (':' :: ((print e.2).toList ++ s))
  have hquote : ∀ t, skipSpace ('"' :: t) = '"' :: t := fun _ => rfl
  rw [toList_fieldText]
  simp only [fields, hquote, hkey]
  -- the colon is no space
  rfl

/-- Fields whose values are read back are read as a whole. -/
theorem fields_text {l : Fields} (each : ∀ e ∈ l, ReadBack e.2) (hne : l ≠ []) (acc : Fields)
    (sorted : (acc ++ l).Sorted) (fuel : Nat) (rest : List Char)
    (hfuel : (",".intercalate (l.map fieldText)).toList.length < fuel) :
    fields fuel acc ((",".intercalate (l.map fieldText)).toList ++ '\x7d' :: rest) =
      some (.object (acc ++ l), rest) := by
  induction l generalizing acc fuel with
  | nil => exact absurd rfl hne
  | cons e more ih =>
    obtain ⟨fuel, rfl⟩ : ∃ n, fuel = n + 1 := ⟨fuel - 1, by omega⟩
    have hitem := each e List.mem_cons_self
    have hlength := length_fieldText e
    have hinsert : Fields.insert e.1 e.2 acc = acc ++ [e] :=
      Fields.insert_of_after
        (fun d hd => (List.pairwise_append.1 sorted).2.2 d hd e List.mem_cons_self) e.2
    cases more with
    | nil =>
      rw [List.map_cons, List.map_nil, String.intercalate_singleton] at hfuel ⊢
      have hvalue := hitem fuel ('\x7d' :: rest) (follows_cons (.inr (.inr rfl)) _) (by omega)
      have hskip : skipSpace ('\x7d' :: rest) = '\x7d' :: rest := rfl
      simp only [fields_fieldText, hvalue, hskip, hinsert]
    | cons next tail =>
      rw [List.map_cons, List.map_cons, toList_intercalate_cons, ← List.map_cons] at hfuel ⊢
      rw [List.length_append, List.length_cons] at hfuel
      rw [List.append_assoc, List.cons_append]
      have hvalue := hitem fuel (',' :: ((",".intercalate ((next :: tail).map fieldText)).toList ++
        '\x7d' :: rest)) (follows_cons (.inl rfl) _) (by omega)
      have hskip : ∀ s, skipSpace (',' :: s) = ',' :: s := fun _ => rfl
      have hmore := ih (fun x hx => each x (List.mem_cons_of_mem _ hx)) (List.cons_ne_nil _ _)
        (acc ++ [e]) (by rwa [List.append_assoc]) fuel (by omega)
      simp only [fields_fieldText, hvalue, hskip, hinsert, hmore, List.append_assoc,
        List.singleton_append]

/-- A row of texts begins as its first text does. -/
theorem exists_intercalate_append (text : String) (more : List String) (s : List Char) :
    ∃ behind, (",".intercalate (text :: more)).toList ++ s = text.toList ++ behind := by
  cases more with
  | nil => exact ⟨s, by rw [String.intercalate_singleton]⟩
  | cons next tail => exact ⟨_, by rw [toList_intercalate_cons, List.append_assoc]⟩

/-- The text of a value is never empty, so there is always fuel for a first step. -/
theorem Regular.readBack {j : Json} (h : Regular j)
    (step : ∀ fuel rest, Follows rest → (print j).toList.length ≤ fuel + 1 →
      value (fuel + 1) ((print j).toList ++ rest) = some (j, rest)) : ReadBack j := by
  intro fuel rest hfollows hfuel
  cases fuel with
  | zero =>
    obtain ⟨c, cs, htext, -⟩ := opens_print h []
    rw [List.append_nil] at htext
    rw [htext] at hfuel
    cases hfuel
  | succ fuel => exact step fuel rest hfollows hfuel

theorem readBack_array {l : List Json} (regular : ∀ item ∈ l, Regular item)
    (each : ∀ item ∈ l, ReadBack item) : ReadBack (.array l) := by
  refine (Regular.array regular).readBack fun fuel rest _ hfuel => ?_
  have hlength := congrArg List.length (print_array l [])
  simp only [List.append_nil, List.length_cons, List.length_append, List.length_nil] at hlength
  rw [print_array]
  cases l with
  | nil => rfl
  | cons item more =>
    have hitems := items_text each (List.cons_ne_nil _ _) [] fuel rest (by omega)
    obtain ⟨behind, hbehind⟩ :=
      exists_intercalate_append (print item) (more.map print) (']' :: rest)
    have hopens := opens_print (regular item List.mem_cons_self) behind
    rw [← hbehind, ← List.map_cons] at hopens
    obtain ⟨c, cs, htext, hspace, hbracket⟩ := hopens
    rw [htext] at hitems ⊢
    have hopen : skipSpace ('[' :: c :: cs) = '[' :: c :: cs := rfl
    have hskip : skipSpace (c :: cs) = c :: cs :=
      List.dropWhile_cons_of_neg (by rw [hspace]; exact Bool.false_ne_true)
    rw [value, hopen]
    simp only [hskip]
    split
    · next heq => exact absurd (List.cons.inj heq).1 hbracket
    · exact hitems

theorem readBack_object {l : Fields} (sorted : l.Sorted) (regular : ∀ e ∈ l, Regular e.2)
    (each : ∀ e ∈ l, ReadBack e.2) : ReadBack (.object l) := by
  refine (Regular.object sorted regular).readBack fun fuel rest _ hfuel => ?_
  have hlength := congrArg List.length (print_object l [])
  simp only [List.append_nil, List.length_cons, List.length_append, List.length_nil] at hlength
  rw [print_object]
  cases l with
  | nil => rfl
  | cons e more =>
    have hfields := fields_text each (List.cons_ne_nil _ _) [] sorted fuel rest (by omega)
    obtain ⟨behind, hbehind⟩ :=
      exists_intercalate_append (fieldText e) (more.map fieldText) ('\x7d' :: rest)
    rw [toList_fieldText, ← List.map_cons] at hbehind
    rw [hbehind] at hfields ⊢
    exact hfields

/-- Every regular value is read back from its text, by the structure of the value. -/
theorem readBack_of_regular {j : Json} (h : Regular j) : ReadBack j := by
  induction h with
  | null => exact Regular.null.readBack fun _ _ _ _ => rfl
  | bool b =>
    refine (Regular.bool b).readBack fun fuel rest _ _ => ?_
    cases b <;> rfl
  | @integer i range =>
    refine (Regular.integer range).readBack fun fuel rest hfollows _ => ?_
    obtain ⟨c, cs, htext, hopens⟩ := toString_int_cons i
    have hnumber := number?_toString range hfollows
    rw [htext] at hnumber
    rw [print, htext, List.cons_append, value_of_opensNumber hopens]
    exact hnumber
  | string text =>
    refine (Regular.string text).readBack fun fuel rest _ _ => ?_
    have hskip : ∀ s, skipSpace ('"' :: s) = '"' :: s := fun _ => rfl
    rw [print, toList_quote, value, hskip]
    simp only [stringBody_text, Option.map_some]
  | @array items regular ih => exact readBack_array regular ih
  | @object fields sorted regular ih => exact readBack_object sorted regular ih

/-- A regular value is what its text denotes. -/
theorem parse?_print {j : Json} (h : Regular j) : parse? (print j) = some j := by
  have hend : Follows [] := by
    intro c hc
    cases hc
  have hvalue := readBack_of_regular h ((print j).toList.length + 1) [] hend (Nat.le_succ _)
  rw [List.append_nil] at hvalue
  simp only [parse?, hvalue]
  rfl

end Json

end StackSync
