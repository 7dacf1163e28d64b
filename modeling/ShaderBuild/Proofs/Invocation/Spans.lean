/-
  Spans point into the text of an invocation.

  The text is put in parentheses to be scanned.  The spans of its tokens and of its faults are
  places of the text itself, and what a span tells is read there.  There are two exceptions: a
  bracket that is left open is reported behind the text, and where the brackets of the text close
  one too many, a string that breaks off at its end is lost in place of the closing parenthesis.

  * `Token.nesting`: the brackets that a token opens, less those that it closes;
  * `Token.LiesAt`, `Lexeme.Laid.tokens`: tokens lie where their lexemes do;
  * `Lexeme.scan_parenthesize`: the scanner behind the opening parenthesis;
  * `spans_in_text`: the spans of the tokens of a text;
  * `faults_in_text`: the spans of its faults.
-/
import ShaderBuild.Proofs.Invocation.Laid
import ShaderBuild.Proofs.Options.Recognition

namespace ShaderBuild

open CodePoint

/-! ## Tokens -/

namespace Token

/-- How many brackets the token opens, less those it closes. -/
def nesting (k : Token) : Int :=
  match k.content with
  | .punct (c :: _) => Lexeme.depthAfter 0 c
  | _ => 0

/-- A token lies in a text, with some code points in front of it. -/
structure LiesAt (t : Text) (n : Nat) (k : Token) : Prop where
  nonempty : k.span.spelling ≠ []
  reads : (t.drop n).take k.span.spelling.length = k.span.spelling
  behind : k.span.IsBehind (t.take n)

variable {t : Text} {n : Nat} {k : Token}

theorem LiesAt.startsIn (h : LiesAt t n k) : k.span.StartsIn t := by
  have starts := h.behind.startsIn (t.drop n)
  rwa [List.take_append_drop] at starts

theorem LiesAt.add_le (h : LiesAt t n k) : n + k.span.spelling.length ≤ t.length := by
  have fits := congrArg List.length h.reads
  have long := List.length_pos_of_ne_nil h.nonempty
  rw [List.length_take, List.length_drop] at fits
  omega

theorem LiesAt.offset (h : LiesAt t n k) : k.span.offset t = n := by
  have offset := h.behind.offset (t.drop n)
  have fits := h.add_le
  rw [List.take_append_drop, List.length_take, Nat.min_eq_left (by omega)] at offset
  exact offset

end Token

theorem Span.before_of_lt {s s' : Span} {t : Text} {n m : Nat} (h : s.IsBehind (t.take n))
    (h' : s'.IsBehind (t.take m)) (hlt : n < m) (hle : m ≤ t.length) : s.Before s' := by
  have split : t.take m = t.take n ++ (t.drop n).take (m - n) := by
    rw [← List.take_add, Nat.add_sub_cancel' (Nat.le_of_lt hlt)]
  rw [split] at h'
  refine h.before h' fun none => ?_
  have short := congrArg List.length none
  rw [List.length_take, List.length_drop, List.length_nil] at short
  omega

theorem Token.LiesAt.before {t : Text} {n m : Nat} {k : Token} {s : Span} (h : k.LiesAt t n)
    (hs : s.IsBehind (t.take m)) (hle : n + k.span.spelling.length ≤ m) (hm : m ≤ t.length) :
    k.span.Before s := by
  have long := List.length_pos_of_ne_nil h.nonempty
  exact Span.before_of_lt h.behind hs (by omega) hm

namespace Lexeme

variable {t u origin : Text} {n m : Nat} {l : Lexeme} {k : Token} {ls : List Lexeme}
  {ks : List Token}

theorem toToken_eq_ok (h : l.toToken origin = .ok k) :
    l.content = .ok k.content ∧ k.span = spanOf l.position l.spelling origin := by
  unfold toToken at h
  dsimp only at h
  split at h
  · rename_i content hc
    cases h
    exact ⟨hc, rfl⟩
  · cases h

theorem toToken_ne_stray (h : l.toToken origin = .ok k) : l.kind ≠ .stray := by
  intro stray
  have content := (toToken_eq_ok h).1
  simp [Lexeme.content, stray] at content

/-- A token opens and closes the brackets that its lexeme does. -/
theorem toToken_nesting (h : l.toToken origin = .ok k) (nonempty : l.spelling ≠ []) :
    k.nesting = l.nesting := by
  have content := (toToken_eq_ok h).1
  obtain ⟨c, rest, spelling⟩ := List.exists_cons_of_ne_nil nonempty
  unfold Lexeme.content at content
  unfold Token.nesting nesting
  generalize k.content = denoted at content
  split at content
  · rename_i word
    cases content
    simp [word]
  · rename_i number
    split at content <;> cases content <;> simp [number]
  · rename_i string
    split at content <;> cases content
    simp [string]
  · rename_i symbol
    cases content
    simp [symbol, spelling]
  · cases content

theorem LiesAt.token (h : LiesAt t n l) (hk : l.toToken origin = .ok k) : k.LiesAt t n := by
  have span := (toToken_eq_ok hk).2
  rw [h.position, Position.shifted_after, Position.spanOf_shifted] at span
  refine ⟨?_, ?_, ?_⟩
  · rw [span]
    exact h.nonempty
  · rw [span]
    exact h.reads
  · rw [span]
    exact ⟨rfl, rfl⟩

/-- Tokens lie where their lexemes do. -/
theorem Laid.tokens (h : Laid t n m ls) (hks : ls.map (toToken origin) = ks.map .ok) :
    (∀ k ∈ ks, ∃ i, n ≤ i ∧ k.LiesAt t i) ∧
      (ks.Pairwise fun k k' => k.span.offset t + k.span.spelling.length ≤ k'.span.offset t) ∧
      ks.map Token.nesting = ls.map nesting := by
  induction h generalizing ks with
  | nil =>
    cases ks with
    | nil => exact ⟨nofun, .nil, rfl⟩
    | cons k ks => cases hks
  | @cons n i m l ls hle lies _ ih =>
    cases ks with
    | nil => cases hks
    | cons k ks =>
      obtain ⟨first, later⟩ := List.cons.inj hks
      obtain ⟨behind, apart, nestings⟩ := ih later
      have token := lies.token first
      have spelling : k.span.spelling = l.spelling := by rw [(toToken_eq_ok first).2]; rfl
      refine ⟨List.forall_mem_cons.2 ⟨⟨i, hle, token⟩, ?_⟩, .cons ?_ apart, ?_⟩
      · intro k' hk'
        obtain ⟨j, hj, lies'⟩ := behind k' hk'
        exact ⟨j, by omega, lies'⟩
      · intro k' hk'
        obtain ⟨j, hj, lies'⟩ := behind k' hk'
        rw [token.offset, lies'.offset, spelling]
        exact hj
      · rw [List.map_cons, List.map_cons, nestings, toToken_nesting first lies.nonempty]

/-! ## The parentheses -/

/-- A lexeme that reaches behind a text takes the line feed there along. -/
theorem LiesAt.getLast? (h : LiesAt (t ++ [lineFeed, ')']) n l)
    (reaches : n + l.spelling.length = t.length + 1) : l.spelling.getLast? = some lineFeed := by
  have long := List.length_pos_of_ne_nil h.nonempty
  have split : t ++ [lineFeed, ')'] = (t ++ [lineFeed]) ++ [(')' : CodePoint)] := by simp
  rw [split] at h
  have fits : n + l.spelling.length ≤ (t ++ [lineFeed]).length := by
    rw [List.length_append, reaches]
    exact Nat.le_refl _
  have reads := (h.of_append fits).reads
  rw [List.drop_append_of_le_length (by omega), List.take_of_length_le] at reads
  · rw [← reads, List.getLast?_concat]
  · rw [List.length_append, List.length_drop, List.length_singleton]
    omega

/-- What lies in front of the closing parenthesis lies in the text. -/
theorem Laid.of_parentheses (h : Laid (t ++ [lineFeed, ')']) n m ls) (hn : n ≤ t.length)
    (hm : m ≤ t.length + 1) (inside : ∀ l ∈ ls, l.spelling.getLast? ≠ some lineFeed) :
    Laid t n t.length ls := by
  induction h with
  | nil _ => exact .nil hn
  | @cons n i m l ls hle lies later ih =>
    obtain ⟨first, inside⟩ := List.forall_mem_cons.1 inside
    have fits : i + l.spelling.length ≤ t.length := by
      have reach := later.le
      have short : i + l.spelling.length ≠ t.length + 1 := fun h => first (lies.getLast? h)
      omega
    exact .cons hle (lies.of_append fits) (ih fits hm inside)

theorem between (first last : Lexeme) (body : List Lexeme) :
    ((first :: body ++ [last]).drop 1).dropLast = body := by
  rw [List.cons_append, List.drop_succ_cons, List.drop_zero, List.dropLast_concat]

/-- The scanner takes the opening parenthesis, and goes on behind it. -/
theorem scan_parenthesize (t : Text) :
    scan (parenthesize t) =
      (scanFrom ⟨1, 1⟩ inside (t ++ [lineFeed, ')'])).map (⟨.symbol, ['('], .start⟩ :: ·) := by
  have opening : parenthesize t = ('(' : CodePoint) :: (t ++ [lineFeed, ')']) := rfl
  have first : step .start {} '(' (t ++ [lineFeed, ')']) = .take (some .symbol) 0 inside := rfl
  have position : Position.start.after ['('] = ⟨1, 1⟩ := rfl
  rw [opening, scan, scanFrom, first]
  simp only [List.take_zero, List.drop_zero]
  rw [position]
  cases scanFrom ⟨1, 1⟩ inside (t ++ [lineFeed, ')']) <;> rfl

/-- The lexemes of a text, between those that hold the parentheses. -/
theorem scan_cases {ls : List Lexeme} (h : scan (parenthesize t) = .ok ls) :
    ∃ body last m, ls = ⟨.symbol, ['('], .start⟩ :: body ++ [last] ∧
      Ending ⟨1, 1⟩ 1 (t ++ [lineFeed, ')']) body last ∧
      Laid (t ++ [lineFeed, ')']) 0 m body ∧ m ≤ t.length + 1 := by
  rw [scan_parenthesize] at h
  cases run : scanFrom ⟨1, 1⟩ inside (t ++ [lineFeed, ')']) with
  | error f =>
    rw [run] at h
    cases h
  | ok found =>
    rw [run] at h
    cases h
    obtain ⟨body, last, rfl, ending⟩ := ending_of_scanFrom (.behind t) run
    obtain ⟨m, laid, lies⟩ := (laid_of_scanFrom (b := []) run).concat
    have fits := lies.add_le
    have long := List.length_pos_of_ne_nil lies.nonempty
    rw [List.nil_append, List.length_append] at fits
    exact ⟨body, last, m, rfl, ending, laid, by simp at fits; omega⟩

theorem failsAt_of_scan {f : ScanFault} (h : scan (parenthesize t) = .error f) : FailsAt t f := by
  rw [scan_parenthesize] at h
  cases run : scanFrom ⟨1, 1⟩ inside (t ++ [lineFeed, ')']) with
  | ok ls =>
    rw [run] at h
    cases h
  | error f =>
    rw [run] at h
    cases h
    exact scanFrom_error (b := []) rfl (absurd rfl) List.mem_cons_self run

/-- The last lexeme is the closing parenthesis if and only if the brackets are balanced. -/
theorem Ending.last_cases {body : List Lexeme} {last : Lexeme}
    (h : Ending ⟨1, 1⟩ 1 (t ++ [lineFeed, ')']) body last) :
    (body.map nesting).sum = 0 ∧ last = ⟨.symbol, text ")", ⟨t.rows.length + 1, 0⟩⟩ ∨
      (body.map nesting).sum = -1 ∧ last.kind = .stray ∧
        ∃ u v, v ≠ [] ∧ t = u ++ v ∧ last.spelling = v ++ text "\n)" := by
  have balance := h.balance
  cases h.holds with
  | bracket hlast =>
    have behind : (t ++ [lineFeed, ')']).dropLast = t ++ [lineFeed] := by simp
    rw [behind, after_feed] at hlast
    have closes : last.nesting = -1 := by rw [hlast]; rfl
    exact .inl ⟨by omega, hlast⟩
  | @broken u v stray nonempty split spelling =>
    have closes : last.nesting = 0 := by simp [nesting, stray]
    rw [← List.append_assoc] at split
    exact .inr ⟨by omega, stray, u, v, nonempty, List.append_cancel_right split, spelling⟩

theorem toToken_eq_error {f : Fault} (h : l.toToken origin = .error f) :
    ∃ fault, f = .config fault (spanOf l.position l.spelling origin) ∧
      ∀ reason, fault ≠ .noLexemes reason := by
  unfold toToken at h
  dsimp only at h
  split at h
  · cases h
  · rename_i fault hc
    cases h
    refine ⟨fault, rfl, ?_⟩
    rintro reason rfl
    unfold Lexeme.content at hc
    split at hc
    · cases hc
    · split at hc <;> cases hc
    · split at hc <;> cases hc
    · cases hc
    · cases hc

end Lexeme

/-! ## Texts -/

variable {t origin : Text}

theorem Token.isBehind_endOf (t origin : Text) : (Token.endOf t origin).span.IsBehind t := by
  rw [Token.endOf, Position.start_after]
  exact ⟨rfl, rfl⟩

theorem isBehind_spanOf (b spelling origin : Text) :
    (spanOf ((⟨1, 1⟩ : Position).after b) spelling origin).IsBehind b := by
  rw [Position.shifted_after, Position.spanOf_shifted]
  exact ⟨rfl, rfl⟩

/-- The tokens of a text are those of lexemes that lie in it. -/
theorem tokenize_eq_ok {tokens : List Token} (h : tokenize t origin = .ok tokens) :
    ∃ body lexemes last, tokens = body ++ [.endOf t origin] ∧
      Lexeme.scan (parenthesize t) = .ok (⟨.symbol, ['('], .start⟩ :: lexemes ++ [last]) ∧
      Lexeme.toTokens origin lexemes = .ok body ∧ Lexeme.Laid t 0 t.length lexemes ∧
      Lexeme.Ending ⟨1, 1⟩ 1 (t ++ [lineFeed, ')']) lexemes last := by
  unfold tokenize at h
  split at h
  · cases h
  · rename_i found run
    split at h
    · cases h
    · rename_i body hbody
      cases h
      obtain ⟨lexemes, last, m, rfl, ending, laid, hm⟩ := Lexeme.scan_cases run
      rw [Lexeme.between] at hbody
      -- a lexeme with a token is not stray, so it leaves the line feed behind the text alone
      refine ⟨body, lexemes, last, rfl, run, hbody,
        laid.of_parentheses (Nat.zero_le _) hm fun l hl => ?_, ending⟩
      have image := List.mem_map_of_mem (f := Lexeme.toToken origin) hl
      rw [Lexeme.toTokens_eq_ok hbody] at image
      obtain ⟨k, -, hk⟩ := List.mem_map.1 image
      exact ending.inside l hl (Lexeme.toToken_ne_stray hk.symm)

/-- **The spans of tokens are the places of the text where they are read.**

    Behind the tokens of a text comes its end, and each lies in the text behind the others.  They
    are the tokens of the lexemes between the two parentheses.  The last lexeme is the closing
    parenthesis, if the brackets of the tokens are balanced; otherwise it is a string that breaks
    off there, and the end of the text is lost with it. -/
theorem spans_in_text {tokens : List Token} (h : tokenize t origin = .ok tokens) :
    ∃ body lexemes last, tokens = body ++ [.endOf t origin] ∧ Unended body ∧
      (∃ row, t.rows.getLast? = some row ∧
        (Token.endOf t origin).span = ⟨t.rows.length, row.length, [], origin⟩) ∧
      (∀ k ∈ body, k.span.StartsIn t ∧ k.span.spelling ≠ [] ∧
        (t.drop (k.span.offset t)).take k.span.spelling.length = k.span.spelling) ∧
      tokens.Pairwise (fun k k' => k.span.Before k'.span ∧
        k.span.offset t + k.span.spelling.length ≤ k'.span.offset t) ∧
      Lexeme.scan (parenthesize t) = .ok (⟨.symbol, text "(", .start⟩ :: lexemes ++ [last]) ∧
      lexemes.map (Lexeme.toToken origin) = body.map .ok ∧
      ((body.map Token.nesting).sum = 0 ∧
          last = ⟨.symbol, text ")", ⟨t.rows.length + 1, 0⟩⟩ ∨
        (body.map Token.nesting).sum = -1 ∧ last.kind = .stray ∧
          ∃ u v, v ≠ [] ∧ t = u ++ v ∧ last.spelling = v ++ text "\n)") := by
  obtain ⟨body, lexemes, last, rfl, run, hbody, laid, ending⟩ := tokenize_eq_ok h
  have tokens := Lexeme.toTokens_eq_ok hbody
  obtain ⟨lies, apart, nestings⟩ := laid.tokens tokens
  have atEnd := Token.isBehind_endOf t origin
  have offset : (Token.endOf t origin).span.offset t = t.length := by
    simpa using atEnd.offset []
  refine ⟨body, lexemes, last, rfl, toTokens_unended hbody, ?_, ?_, ?_, run, tokens, ?_⟩
  · obtain ⟨row, hlast, hrows⟩ := Position.behind_eq_rows t
    refine ⟨row, hlast, ?_⟩
    rw [Token.endOf, Position.start_after, hrows]
  · intro k hk
    obtain ⟨i, -, hi⟩ := lies k hk
    refine ⟨hi.startsIn, hi.nonempty, ?_⟩
    rw [hi.offset]
    exact hi.reads
  · refine List.pairwise_append.2 ⟨apart.imp_of_mem ?_, List.pairwise_singleton _ _, ?_⟩
    · intro k k' hk hk' hle
      obtain ⟨i, -, hi⟩ := lies k hk
      obtain ⟨j, -, hj⟩ := lies k' hk'
      refine ⟨hi.before hj.behind ?_ (Nat.le_of_add_right_le hj.add_le), hle⟩
      rwa [hi.offset, hj.offset] at hle
    · intro k hk e he
      obtain rfl := List.mem_singleton.1 he
      obtain ⟨i, -, hi⟩ := lies k hk
      have whole : t.take t.length = t := List.take_length
      rw [hi.offset, offset]
      exact ⟨hi.before (whole.symm ▸ atEnd) hi.add_le (Nat.le_refl _), hi.add_le⟩
  · rw [nestings]
    exact ending.last_cases

/-- A number on a second line is read there, behind the tokens of the first. -/
theorem spans_in_text_second_line :
    let t := text "version:\n  450"
    let word : Token := ⟨.ident (text "version"), ⟨1, 0, text "version", defaultOrigin⟩⟩
    let colon : Token := ⟨.punct (text ":"), ⟨1, 7, text ":", defaultOrigin⟩⟩
    let number : Token := ⟨.int 450, ⟨2, 2, text "450", defaultOrigin⟩⟩
    let last : Token := ⟨.finish, ⟨2, 5, [], defaultOrigin⟩⟩
    tokenize t defaultOrigin = .ok [word, colon, number, last] ∧ number.span.StartsIn t ∧
      (t.drop (number.span.offset t)).take 3 = text "450" ∧ number.span.Before last.span := by
  intro t word colon number last
  have found : tokenize t defaultOrigin = .ok [word, colon, number, last] := by decide +kernel
  obtain ⟨body, -, -, ends, -, -, places, order, -⟩ := spans_in_text found
  have split : [word, colon, number] ++ [last] = body ++ [.endOf t defaultOrigin] := ends
  obtain ⟨rfl, -⟩ := List.append_inj' split rfl
  obtain ⟨starts, -, reads⟩ := places number (.tail _ (.tail _ (.head _)))
  have later : [number, last].Pairwise _ := order.tail.tail
  exact ⟨found, starts, reads, (List.rel_of_pairwise_cons later (.head _)).1⟩

/-- A string that breaks off behind a superfluous bracket is lost: the scanner finds it, and
    elsewhere it would be a fault, but it stands where the closing parenthesis would. -/
theorem spans_in_text_lost_string :
    let t := text ") \"abc\\"
    let bracket : Lexeme := ⟨.symbol, text ")", ⟨1, 1⟩⟩
    let lost : Lexeme := ⟨.stray, text "\"abc\\\n)", ⟨1, 3⟩⟩
    tokenize t defaultOrigin =
        .ok [⟨.punct (text ")"), ⟨1, 0, text ")", defaultOrigin⟩⟩, .endOf t defaultOrigin] ∧
      Lexeme.scan (parenthesize t) = .ok [⟨.symbol, text "(", .start⟩, bracket, lost] ∧
      lost.toToken defaultOrigin =
        .error (.config (.stray lost.spelling) ⟨1, 2, lost.spelling, defaultOrigin⟩) ∧
      ¬ ∃ lexemes, Lexeme.scan (parenthesize t) =
        .ok (⟨.symbol, text "(", .start⟩ :: lexemes ++ [⟨.symbol, text ")", ⟨2, 0⟩⟩]) := by
  intro t bracket lost
  have run : Lexeme.scan (parenthesize t) =
      .ok ([⟨.symbol, text "(", .start⟩, bracket] ++ [lost]) := by decide +kernel
  refine ⟨by decide +kernel, run, rfl, ?_⟩
  rintro ⟨lexemes, closed⟩
  obtain ⟨-, last⟩ := List.append_inj' (Except.ok.inj (run.symm.trans closed)) rfl
  have kinds : Lexeme.Kind.stray = .symbol := congrArg Lexeme.kind (List.cons.inj last).1
  cases kinds

/-- **Faults point into the text, but for a bracket that is left open.**

    That is reported on the second line behind the text. -/
theorem faults_in_text {f : Fault} (h : tokenize t origin = .error f) :
    ∃ fault span, f = .config fault span ∧ span.origin = origin ∧
      (fault = .noLexemes .openStatement ∧ span = ⟨t.rows.length + 2, 0, [], origin⟩ ∨
        fault ≠ .noLexemes .openStatement ∧ span.StartsIn t) := by
  unfold tokenize at h
  split at h
  · rename_i f run
    cases h
    refine ⟨_, _, rfl, rfl, ?_⟩
    -- the scanner fails
    cases Lexeme.failsAt_of_scan run with
    | behind hf =>
      rw [hf]
      exact .inl ⟨rfl, rfl⟩
    | @within b u reason ht position =>
      refine .inr ⟨?_, ?_⟩
      · intro same
        exact reason (ConfigFault.noLexemes.inj same)
      · rw [position, ht]
        exact (isBehind_spanOf b [] origin).startsIn u
  · rename_i lexemes run
    split at h
    · rename_i f hfault
      cases h
      -- a lexeme is no token
      obtain ⟨body, last, m, rfl, ending, laid, hm⟩ := Lexeme.scan_cases run
      rw [Lexeme.between] at hfault
      obtain ⟨l, hl, hfault⟩ := Lexeme.toTokens_eq_error hfault
      obtain ⟨fault, rfl, other⟩ := Lexeme.toToken_eq_error hfault
      obtain ⟨i, lies, fits⟩ := laid.liesAt l hl
      have long := List.length_pos_of_ne_nil lies.nonempty
      refine ⟨fault, _, rfl, rfl, .inr ⟨other _, ?_⟩⟩
      have starts := (isBehind_spanOf (t.take i) l.spelling origin).startsIn (t.drop i)
      rw [lies.position, List.take_append_of_le_length (by omega)]
      rwa [List.take_append_drop] at starts
    · cases h

/-- A code point that is no token is reported where it stands. -/
theorem faults_in_text_stray :
    let t := text "kind: vert,\n$"
    let span : Span := ⟨2, 0, text "$", defaultOrigin⟩
    tokenize t defaultOrigin = .error (.config (.stray (text "$")) span) ∧ span.StartsIn t := by
  intro t span
  have failed : tokenize t defaultOrigin = .error (.config (.stray (text "$")) span) := by
    decide +kernel
  obtain ⟨fault, place, same, -, cases⟩ := faults_in_text failed
  cases same
  obtain ⟨opened, -⟩ | ⟨-, starts⟩ := cases
  · cases opened
  · exact ⟨failed, starts⟩

/-- A bracket that is left open in a line is reported on the third line, that is, behind the closing
    parenthesis. -/
theorem faults_in_text_open_bracket :
    let span : Span := ⟨3, 0, [], defaultOrigin⟩
    tokenize (text "(") defaultOrigin = .error (.config (.noLexemes .openStatement) span) ∧
      ¬ span.StartsIn (text "(") := by
  refine ⟨by decide +kernel, ?_⟩
  rintro ⟨i, row, hrow, line, -⟩
  have second : i = 2 := by
    have line : (3 : Int) = i + 1 := line
    omega
  subst second
  cases hrow

end ShaderBuild
