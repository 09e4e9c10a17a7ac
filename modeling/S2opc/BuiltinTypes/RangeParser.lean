/-
The parser of index ranges, `sopc_numeric_range.c`.

A text such as `1:2,7` has one part per dimension, with one index or with two.
The lexer looks at one character, and can leave it for the next call; it is
shared by functions that call each other as the grammar of the texts does.  The
result is that they accept the texts of this grammar and no others.

A text is given without its final zero, and memory allocations succeed.
-/
import S2opc.BuiltinTypes.Range

namespace S2opc.BuiltinTypes.RangeParser

/-! ## The lexer -/

/-- `token_type_t`. -/
inductive TokenType where
  | start
  | eof
  | error
  | digit
  | comma
  | colon
  deriving DecidableEq, Repr

/-- `struct parse_ctx_t`: `rest` is the part of `data` from `idx` on. -/
structure ParseCtx where
  rest : List UInt8
  lastToken : TokenType
  tokenLen : Nat

/-- `is_digit`. -/
def isDigit (c : UInt8) : Bool := 48 ≤ c && c ≤ 57

/-- `lex_digit`. -/
def lexDigit (ctx : ParseCtx) : ParseCtx :=
  { ctx with rest := ctx.rest.dropWhile isDigit, tokenLen := (ctx.rest.takeWhile isDigit).length }

/-- `lex_helper`. -/
def lexHelper (ctx : ParseCtx) : TokenType × ParseCtx :=
  if ctx.lastToken = .eof then (.eof, ctx)
  else
    match ctx.rest with
    | [] => (.eof, { ctx with lastToken := .eof, tokenLen := 0 })
    | c :: rest =>
      let next : ParseCtx :=
        -- Digits leave the last token as it is
        if isDigit c then lexDigit ctx
        else if c = 58 then ⟨rest, .colon, 1⟩
        else if c = 44 then ⟨rest, .comma, 1⟩
        else { ctx with lastToken := .error, tokenLen := 0 }
      (next.lastToken, next)

/-- `lex`. -/
def lex (ctx : ParseCtx) (consume : Bool) : TokenType × ParseCtx :=
  let (res, next) := lexHelper ctx
  (res, if consume then next else { next with rest := ctx.rest })

/-! ## Numbers -/

/-- The number that decimal digits denote. -/
def digitsValue (digits : List UInt8) : Nat :=
  digits.foldl (fun value c => 10 * value + (c.toNat - 48)) 0

def ulongMax : Nat := 2 ^ 64 - 1

/-- `strtoul` in base 10, for a text that starts with no blank and no sign: the number, what follows
    it, and whether it was out of range. -/
def strtoul (sz : List UInt8) : Nat × List UInt8 × Bool :=
  let value := digitsValue (sz.takeWhile isDigit)
  (min value ulongMax, sz.dropWhile isDigit, ulongMax < value)

/-- `SOPC_strtouint32_t` in base 10, up to the final zero. -/
def strtouint32 (sz : List UInt8) : Except Status UInt32 :=
  let (value, pEnd, erange) := strtoul sz
  if pEnd = sz ∨ pEnd ≠ [] ∨ (ulongMax = value ∧ erange) ∨ 4294967295 < value then .error .nok
  else .ok (UInt32.ofNat value)

/-! ## The parser -/

/-- `parse_index`. -/
def parseIndex (ctx : ParseCtx) : Option (UInt32 × ParseCtx) :=
  let next := lexDigit ctx
  if next.tokenLen = 0 ∨ 21 ≤ next.tokenLen then none
  else
    match strtouint32 (ctx.rest.take next.tokenLen) with
    | .ok val => some (val, next)
    | .error _ => none

/-- `parse_dimension`. -/
def parseDimension (ctx : ParseCtx) : Option (Dimension × ParseCtx) :=
  match parseIndex ctx with
  | none => none
  | some (start, ctx) =>
    match lex ctx false with
    | (.colon, ctx) =>
      match parseIndex (lex ctx true).2 with
      | none => none
      | some (endIndex, ctx) =>
        if h : endIndex ≤ start then none
        else some (⟨start, endIndex, UInt32.le_of_lt (UInt32.not_le.1 h)⟩, ctx)
    | (_, ctx) => some (⟨start, start, UInt32.le_refl start⟩, ctx)

/-- `parse_one_dimension`, with `has_more`. -/
def parseOneDimension (ctx : ParseCtx) (dimensions : NumericRange) :
    Except Status (Bool × ParseCtx × NumericRange) :=
  match parseDimension ctx with
  | none => .error .nok
  | some (dim, ctx) =>
    match lex ctx true with
    | (.comma, ctx) => .ok (true, ctx, dimensions ++ [dim])
    | (.eof, ctx) => .ok (false, ctx, dimensions ++ [dim])
    | _ => .error .nok

/-! ## The grammar -/

/-- A text is an index of value `n`. -/
structure IsIndex (s : List UInt8) (n : UInt32) : Prop where
  digits : ∀ c ∈ s, isDigit c = true
  pos : 1 ≤ s.length
  le : s.length ≤ 20
  value : digitsValue s = n.toNat

/-- A text is an index, or two with the second one strictly greater. -/
inductive IsDimension : List UInt8 → Dimension → Prop where
  | one {s : List UInt8} {n : UInt32} (h : IsIndex s n) :
      IsDimension s ⟨n, n, UInt32.le_refl n⟩
  | two {s t : List UInt8} {a b : UInt32} (hs : IsIndex s a) (ht : IsIndex t b) (hab : a < b) :
      IsDimension (s ++ 58 :: t) ⟨a, b, UInt32.le_of_lt hab⟩

/-- A text is one or more dimensions, with commas between them. -/
inductive IsRange : List UInt8 → NumericRange → Prop where
  | last {s : List UInt8} {d : Dimension} (h : IsDimension s d) : IsRange s [d]
  | more {s t : List UInt8} {d : Dimension} {range : NumericRange} (h : IsDimension s d)
      (ht : IsRange t range) : IsRange (s ++ 44 :: t) (d :: range)

/-! ## What the functions read -/

/-- A text does not start with a digit. -/
def NoDigit (rest : List UInt8) : Prop := ∀ c ∈ rest.head?, isDigit c = false

variable {ctx next : ParseCtx} {s rest : List UInt8} {n : UInt32} {d : Dimension}
  {dims dims' range : NumericRange}

theorem noDigit_dropWhile (s : List UInt8) : NoDigit (s.dropWhile isDigit) := by
  intro c hc
  have hnot := List.head?_dropWhile_not isDigit s
  rwa [Option.mem_def.1 hc] at hnot

theorem takeWhile_of_digits (hs : ∀ c ∈ s, isDigit c = true) (hrest : NoDigit rest) :
    (s ++ rest).takeWhile isDigit = s ∧ (s ++ rest).dropWhile isDigit = rest := by
  rw [List.takeWhile_append_of_pos hs, List.dropWhile_append_of_pos hs]
  cases rest with
  | nil => simp
  | cons c rest => simp [hrest c rfl]

/-- Digits up to the final zero are a number if it fits. -/
theorem strtouint32_eq_ok (hs : ∀ c ∈ s, isDigit c = true) (hpos : 1 ≤ s.length) :
    strtouint32 s = .ok n ↔ digitsValue s = n.toNat := by
  have hlt := n.toNat_lt
  have hnil : NoDigit [] := by rintro c ⟨⟩
  obtain ⟨htake, hdrop⟩ := takeWhile_of_digits hs hnil
  rw [List.append_nil] at htake hdrop
  have hne : ([] : List UInt8) ≠ s := by
    rintro rfl
    simp at hpos
  simp only [strtouint32, strtoul, htake, hdrop, hne, ne_eq, not_true_eq_false, false_or,
    decide_eq_true_eq, ulongMax]
  split_ifs with hout
  · constructor
    · intro h
      cases h
    · intro h
      omega
  · rw [Except.ok.injEq, ← UInt32.toNat_inj, UInt32.toNat_ofNat', Nat.mod_eq_of_lt (by omega)]
    omega

/-- An index is read up to a character that is not a digit. -/
theorem parseIndex_eq_some :
    parseIndex ctx = some (n, next) ↔
      ∃ s rest, ctx.rest = s ++ rest ∧ IsIndex s n ∧ NoDigit rest ∧
        next = ⟨rest, ctx.lastToken, s.length⟩ := by
  obtain ⟨text, token, len⟩ := ctx
  have hread : ∀ {s rest : List UInt8}, (∀ c ∈ s, isDigit c = true) → NoDigit rest →
      parseIndex ⟨s ++ rest, token, len⟩ = if s.length = 0 ∨ 21 ≤ s.length then none else
        match strtouint32 s with
        | .ok val => some (val, ⟨rest, token, s.length⟩)
        | .error _ => none := by
    intro s rest hs hrest
    obtain ⟨htake, hdrop⟩ := takeWhile_of_digits hs hrest
    simp only [parseIndex, lexDigit, htake, hdrop, List.take_left]
  constructor
  · intro h
    have hdigits : ∀ c ∈ text.takeWhile isDigit, isDigit c = true := fun c hc =>
      List.mem_takeWhile_imp hc
    rw [← List.takeWhile_append_dropWhile (p := isDigit) (l := text),
      hread hdigits (noDigit_dropWhile text)] at h
    split_ifs at h with hlen
    rw [not_or, not_le] at hlen
    split at h
    · rename_i val hval
      cases h
      refine ⟨_, _, List.takeWhile_append_dropWhile.symm,
        ⟨hdigits, Nat.one_le_iff_ne_zero.2 hlen.1, Nat.le_of_lt_succ hlen.2, ?_⟩,
        noDigit_dropWhile text, rfl⟩
      exact (strtouint32_eq_ok hdigits (by omega)).1 hval
    · cases h
  · rintro ⟨s, rest, rfl, hs, hrest, rfl⟩
    have hpos := hs.pos
    have hle := hs.le
    rw [hread hs.digits hrest, if_neg (by omega), (strtouint32_eq_ok hs.digits hs.pos).2 hs.value]

/-- The token at the start of a text without a digit there. -/
def tokenOf : List UInt8 → TokenType
  | [] => .eof
  | c :: _ => if c = 58 then .colon else if c = 44 then .comma else .error

/-- The lexer remembers the end of the text only when it is there. -/
def Live (ctx : ParseCtx) : Prop := ctx.lastToken = .eof → ctx.rest = []

/-- What the lexer finds after an index, and what it leaves. -/
theorem lex_spec (hrest : NoDigit ctx.rest) (hctx : Live ctx) (consume : Bool) :
    ∃ next, lex ctx consume = (tokenOf ctx.rest, next) ∧ Live next ∧
      next.rest = if consume ∧ tokenOf ctx.rest ≠ .error then ctx.rest.tail else ctx.rest := by
  refine ⟨(lex ctx consume).2, ?_⟩
  obtain ⟨_ | ⟨c, rest⟩, token, len⟩ := ctx
  · simp only [lex, lexHelper, tokenOf, Live, Prod.mk.injEq]
    split_ifs <;> simp
  · have htoken : token ≠ .eof := fun h => List.cons_ne_nil c rest (hctx h)
    simp only [lex, lexHelper, tokenOf, Live, htoken, hrest c rfl, Prod.mk.injEq]
    split_ifs <;> simp_all

/-- An index was read: the end of the text had not been. -/
theorem live_of_index (hctx : Live ctx) (htext : ctx.rest = s ++ rest) (hs : IsIndex s n) :
    Live ⟨rest, ctx.lastToken, s.length⟩ := by
  intro heof
  have hpos := hs.pos
  rw [hctx heof] at htext
  rw [(List.append_eq_nil_iff.1 htext.symm).1] at hpos
  cases hpos

/-- After its first index, a dimension is complete unless a colon follows. -/
theorem parseDimension_after (hctx : Live ctx) (htext : ctx.rest = s ++ rest) (hs : IsIndex s n)
    (hrest : NoDigit rest) :
    (tokenOf rest ≠ .colon → ∃ next, next.rest = rest ∧ Live next ∧
      parseDimension ctx = some (⟨n, n, UInt32.le_refl n⟩, next)) ∧
    (tokenOf rest = .colon → ∃ taken, taken.rest = rest.tail ∧ Live taken ∧
      parseDimension ctx = match parseIndex taken with
        | none => none
        | some (endIndex, next) =>
          if h : endIndex ≤ n then none
          else some (⟨n, endIndex, UInt32.le_of_lt (UInt32.not_le.1 h)⟩, next)) := by
  have hindex := parseIndex_eq_some.2 ⟨s, rest, htext, hs, hrest, rfl⟩
  obtain ⟨peeked, hpeek, hlive, rfl⟩ := lex_spec hrest (live_of_index hctx htext hs) false
  obtain ⟨taken, htake, hlive', hrest'⟩ := lex_spec hrest hlive true
  simp only [parseDimension, hindex, hpeek]
  constructor
  · intro hcolon
    refine ⟨peeked, rfl, hlive, ?_⟩
    split
    · exact absurd (congrArg Prod.fst ‹_›) hcolon
    · exact congrArg _ (congrArg _ (congrArg Prod.snd ‹_›).symm)
  · intro hcolon
    rw [hcolon, if_pos ⟨rfl, by decide⟩] at hrest'
    refine ⟨taken, hrest', hlive', ?_⟩
    simp only [hcolon, htake]

theorem tokenOf_spec (rest : List UInt8) :
    match tokenOf rest with
    | .eof => rest = []
    | .colon => rest = 58 :: rest.tail
    | .comma => rest = 44 :: rest.tail
    | _ => True := by
  cases rest with
  | nil => rfl
  | cons c rest =>
    rw [tokenOf]
    split_ifs <;> simp_all

/-- What is read as a dimension is one. -/
theorem isDimension_of_parse (hctx : Live ctx) (h : parseDimension ctx = some (d, next)) :
    ∃ s, ctx.rest = s ++ next.rest ∧ IsDimension s d ∧ NoDigit next.rest ∧ Live next := by
  obtain ⟨⟨n, mid⟩, hindex⟩ : ∃ read, parseIndex ctx = some read := by
    apply Option.ne_none_iff_exists'.1
    intro hnone
    rw [parseDimension, hnone] at h
    cases h
  obtain ⟨s, rest, htext, hs, hrest, -⟩ := parseIndex_eq_some.1 hindex
  obtain ⟨hone, htwo⟩ := parseDimension_after hctx htext hs hrest
  by_cases hcolon : tokenOf rest = .colon
  · obtain ⟨taken, htail, hlive, heq⟩ := htwo hcolon
    have htoken := tokenOf_spec rest
    rw [hcolon] at htoken
    rw [heq] at h
    split at h
    · cases h
    · rename_i m next' hindex'
      split_ifs at h with hle
      cases h
      obtain ⟨t, rest, htext', ht, hrest, rfl⟩ := parseIndex_eq_some.1 hindex'
      refine ⟨s ++ 58 :: t, ?_, .two hs ht (UInt32.not_le.1 hle), hrest, ?_⟩
      · rw [htext, htoken, ← htail, htext', List.append_assoc, List.cons_append]
      · exact live_of_index hlive htext' ht
  · obtain ⟨next', rfl, hlive, heq⟩ := hone hcolon
    rw [heq] at h
    cases h
    exact ⟨s, htext, .one hs, hrest, hlive⟩

/-- A dimension is read, up to a comma or to the end. -/
theorem parse_of_isDimension (hctx : Live ctx) (hd : IsDimension s d) (hrest : NoDigit rest)
    (hcolon : tokenOf rest ≠ .colon) (htext : ctx.rest = s ++ rest) :
    ∃ next, parseDimension ctx = some (d, next) ∧ next.rest = rest ∧ Live next := by
  cases hd with
  | one hs =>
    obtain ⟨next, hnext, hlive, heq⟩ := (parseDimension_after hctx htext hs hrest).1 hcolon
    exact ⟨next, heq, hnext, hlive⟩
  | @two s t a b hs ht hab =>
    rw [List.append_assoc, List.cons_append] at htext
    have hno : NoDigit (58 :: (t ++ rest)) := by
      rintro c ⟨⟩
      decide
    obtain ⟨taken, htail, hlive, heq⟩ := (parseDimension_after hctx htext hs hno).2 rfl
    rw [List.tail_cons] at htail
    rw [parseIndex_eq_some.2 ⟨t, rest, htail, ht, hrest, rfl⟩] at heq
    simp only [dif_neg (UInt32.not_le.2 hab)] at heq
    exact ⟨_, heq, rfl, live_of_index hlive htail ht⟩

/-- One turn of the loop reads a dimension, with the comma after it or up to the end. -/
theorem isDimension_of_parseOne (hctx : Live ctx) {more : Bool}
    (h : parseOneDimension ctx dims = .ok (more, next, dims')) :
    Live next ∧ ∃ s d, IsDimension s d ∧ dims' = dims ++ [d] ∧
      ctx.rest = if more then s ++ 44 :: next.rest else s := by
  rw [parseOneDimension] at h
  split at h
  · cases h
  · rename_i d mid hdim
    obtain ⟨s, htext, hd, hrest, hlive⟩ := isDimension_of_parse hctx hdim
    obtain ⟨last, hlex, hlive', hrest'⟩ := lex_spec hrest hlive true
    have htoken := tokenOf_spec mid.rest
    rw [hlex] at h
    split at h
    · rename_i hfound
      obtain ⟨hcomma, rfl⟩ := Prod.mk.inj hfound
      cases h
      rw [hcomma, if_pos ⟨rfl, by decide⟩] at hrest'
      rw [hcomma] at htoken
      exact ⟨hlive', s, d, hd, rfl, by rw [htext, hrest', if_pos rfl, ← htoken]⟩
    · rename_i hfound
      obtain ⟨heof, rfl⟩ := Prod.mk.inj hfound
      cases h
      rw [heof] at htoken
      exact ⟨hlive', s, d, hd, rfl, by rw [htext, htoken, List.append_nil]; rfl⟩
    · cases h

/-- A dimension with a comma or nothing after it is read by one turn of the loop. -/
theorem parseOne_of_isDimension (hctx : Live ctx) (hd : IsDimension s d) (more : Bool)
    (rest : List UInt8) (htext : ctx.rest = if more then s ++ 44 :: rest else s) (dims : NumericRange) :
    ∃ next, parseOneDimension ctx dims = .ok (more, next, dims ++ [d]) ∧ Live next ∧
      (more = true → next.rest = rest) := by
  have htext' : ctx.rest = s ++ if more then 44 :: rest else [] := by
    rw [htext]
    cases more <;> simp
  have hno : NoDigit (if more then 44 :: rest else []) := by
    cases more
    · rintro c ⟨⟩
    · rintro c ⟨⟩
      decide
  have htoken : tokenOf (if more then 44 :: rest else []) = if more then .comma else .eof := by
    cases more <;> rfl
  obtain ⟨mid, hdim, hmid, hlive⟩ := parse_of_isDimension hctx hd hno
    (by rw [htoken]; cases more <;> decide) htext'
  obtain ⟨last, hlex, hlive', hrest'⟩ := lex_spec (hmid ▸ hno) hlive true
  rw [hmid, htoken] at hlex hrest'
  refine ⟨last, ?_, hlive', ?_⟩
  · simp only [parseOneDimension, hdim, hlex]
    cases more <;> rfl
  · rintro rfl
    exact hrest'

/-! ## The loop -/

/-- `parse_dimensions`. -/
def parseDimensions (ctx : ParseCtx) (hctx : Live ctx) (dimensions : NumericRange) :
    Except Status NumericRange :=
  match h : parseOneDimension ctx dimensions with
  | .error status => .error status
  | .ok (false, _, dimensions) => .ok dimensions
  | .ok (true, next, dimensions) =>
    parseDimensions next (isDimension_of_parseOne hctx h).1 dimensions
termination_by ctx.rest.length
decreasing_by
  obtain ⟨-, s, d, -, -, htext⟩ := isDimension_of_parseOne hctx h
  rw [htext, if_pos rfl, List.length_append, List.length_cons]
  omega

theorem live_start (text : List UInt8) : Live ⟨text, .start, 0⟩ :=
  nofun

/-- `SOPC_NumericRange_Parse`. -/
def numericRangeParse (text : List UInt8) : Except Status NumericRange :=
  match parseDimensions ⟨text, .start, 0⟩ (live_start text) [] with
  | .error status => .error status
  | .ok dimensions => if dimensions.length = 0 then .error .nok else .ok dimensions

/-- The loop reads the dimensions that are left. -/
theorem parseDimensions_eq_ok (hctx : Live ctx) :
    parseDimensions ctx hctx dims = .ok dims' ↔
      ∃ range, IsRange ctx.rest range ∧ dims' = dims ++ range := by
  constructor
  · intro h
    fun_induction parseDimensions ctx hctx dims with
    | case1 => cases h
    | case2 ctx hctx dims last dims'' hone =>
      cases h
      obtain ⟨-, s, d, hd, rfl, htext⟩ := isDimension_of_parseOne hctx hone
      rw [htext]
      exact ⟨[d], .last hd, rfl⟩
    | case3 ctx hctx dims next dims'' hone ih =>
      obtain ⟨range, hrange, rfl⟩ := ih h
      obtain ⟨-, s, d, hd, rfl, htext⟩ := isDimension_of_parseOne hctx hone
      rw [htext]
      exact ⟨d :: range, .more hd hrange, (List.append_cons ..).symm⟩
  · rintro ⟨range, hrange, rfl⟩
    generalize htext : ctx.rest = text at hrange
    induction hrange generalizing ctx dims with
    | @last s d hd =>
      obtain ⟨next, hone, -⟩ := parseOne_of_isDimension hctx hd false [] htext dims
      rw [parseDimensions]
      split
      all_goals cases hone.symm.trans ‹_›
      rfl
    | @more s t d range hd ht ih =>
      obtain ⟨next, hone, hlive, hnext⟩ := parseOne_of_isDimension hctx hd true t htext dims
      rw [parseDimensions]
      split
      all_goals cases hone.symm.trans ‹_›
      rw [ih _ (hnext rfl), List.append_assoc, List.singleton_append]

/-- The parser accepts a text if and only if it denotes a range, and returns this range. -/
theorem numericRangeParse_eq_ok_iff (text : List UInt8) (range : NumericRange) :
    numericRangeParse text = .ok range ↔ IsRange text range := by
  have hloop : ∀ {dims}, parseDimensions ⟨text, .start, 0⟩ (live_start text) [] = .ok dims ↔
      IsRange text dims := by
    intro dims
    rw [parseDimensions_eq_ok]
    simp
  rw [numericRangeParse]
  split
  · rename_i hstatus
    rw [← hloop, hstatus]
  · rename_i dims hdims
    have hne : dims.length ≠ 0 := by
      cases hloop.1 hdims <;> simp
    rw [if_neg hne, ← hloop, hdims]

end S2opc.BuiltinTypes.RangeParser
