/-
  The bytes of a module come through as words.

  The library gives bytes, an output holds words, and what is written are bytes again.  Bytes are
  lost only behind the last whole word.

  * `Library.wordBytes_wordOf`, `Library.wordOf_wordBytes`: four bytes are one word;
  * `Library.flatMap_wordsOf`: the bytes of the words of bytes are these, up to the last whole word;
  * `Library.wordsOf_flatMap`: the words of the bytes of words are these;
  * `Library.output_of_success`: what comes of a build when the library tells of success;
  * `Library.bytes_kept`: all of this together.
-/
import ShaderBuild.Proofs.Artifact.Write
import ShaderBuild.Proofs.Library.FileBytes

namespace ShaderBuild

open BuildOutput (isWord wordBytes)

namespace BuildOutput

theorem isWord_iff {n : Int} : isWord n ↔ 0 ≤ n ∧ n < 2 ^ 32 := by
  simp [isWord]

/-- Integers have bytes if all of them are words, and otherwise none. -/
theorem toBytes_cases (o : BuildOutput) :
    (∀ n ∈ o.words, isWord n) ∧ o.toBytes = .ok (o.words.flatMap wordBytes) ∨
      (∃ n ∈ o.words, ¬ isWord n) ∧ o.toBytes = .error .wordRange := by
  unfold toBytes
  split
  · rename_i h
    exact .inl ⟨List.all_eq_true.1 h, rfl⟩
  · rename_i h
    refine .inr ⟨?_, rfl⟩
    simpa using h

end BuildOutput

namespace Library

/-! ## One word -/

/-- The word of four bytes, the lowest first. -/
def wordOf (a b c d : UInt8) : Int :=
  (a.toNat + b.toNat * 2 ^ 8 + c.toNat * 2 ^ 16 + d.toNat * 2 ^ 24 : Nat)

theorem isWord_wordOf (a b c d : UInt8) : isWord (wordOf a b c d) := by
  have ha := a.toNat_lt
  have hb := b.toNat_lt
  have hc := c.toNat_lt
  have hd := d.toNat_lt
  rw [BuildOutput.isWord_iff, wordOf]
  omega

theorem wordBytes_wordOf (a b c d : UInt8) : wordBytes (wordOf a b c d) = [a, b, c, d] := by
  have ha := a.toNat_lt
  have hb := b.toNat_lt
  have hc := c.toNat_lt
  have hd := d.toNat_lt
  simp only [wordBytes, wordOf, Int.toNat_natCast, List.cons.injEq, and_true, ← UInt8.toNat_inj,
    UInt8.toNat_ofNat']
  omega

theorem wordOf_wordBytes {n : Int} (h : isWord n) (rest : Bytes) :
    wordsOf (wordBytes n ++ rest) = n :: wordsOf rest := by
  obtain ⟨hn, hlt⟩ := BuildOutput.isWord_iff.1 h
  simp only [wordBytes, List.cons_append, List.nil_append, wordsOf, List.cons.injEq, and_true,
    UInt8.toNat_ofNat']
  omega

/-! ## Words -/

/-- Bytes that are no words at all. -/
theorem wordsOf_short {bytes : Bytes}
    (h : ∀ a b c d rest, bytes = a :: b :: c :: d :: rest → False) :
    wordsOf bytes = [] ∧ bytes.length / 4 = 0 := by
  constructor
  · rw [wordsOf]
    exact h
  · rcases bytes with - | ⟨a, - | ⟨b, - | ⟨c, - | ⟨d, rest⟩⟩⟩⟩
    · simp
    · simp
    · simp
    · simp
    · exact absurd rfl (h a b c d rest)

theorem wordsOf_cons (a b c d : UInt8) (rest : Bytes) :
    wordsOf (a :: b :: c :: d :: rest) = wordOf a b c d :: wordsOf rest := by
  rw [wordsOf, wordOf]
  rfl

theorem length_wordsOf (bytes : Bytes) : (wordsOf bytes).length = bytes.length / 4 := by
  induction bytes using wordsOf.induct with
  | case1 a b c d rest ih =>
    simp only [wordsOf_cons, List.length_cons, ih]
    omega
  | case2 bytes short =>
    obtain ⟨hw, hl⟩ := wordsOf_short short
    rw [hw, hl, List.length_nil]

theorem isWord_of_mem_wordsOf {bytes : Bytes} {n : Int} (h : n ∈ wordsOf bytes) : isWord n := by
  induction bytes using wordsOf.induct with
  | case1 a b c d rest ih =>
    rw [wordsOf_cons, List.mem_cons] at h
    rcases h with rfl | h
    · exact isWord_wordOf a b c d
    · exact ih h
  | case2 bytes short =>
    rw [(wordsOf_short short).1] at h
    cases h

/-- The bytes of the words of bytes are these, up to the last whole word. -/
theorem flatMap_wordsOf (bytes : Bytes) :
    (wordsOf bytes).flatMap wordBytes = bytes.take (4 * (bytes.length / 4)) := by
  induction bytes using wordsOf.induct with
  | case1 a b c d rest ih =>
    have longer : 4 * ((a :: b :: c :: d :: rest).length / 4) = 4 * (rest.length / 4) + 4 := by
      simp only [List.length_cons]
      omega
    rw [wordsOf_cons, List.flatMap_cons, wordBytes_wordOf, ih, longer]
    rfl
  | case2 bytes short =>
    obtain ⟨hw, hl⟩ := wordsOf_short short
    rw [hw, hl, Nat.mul_zero, List.take_zero, List.flatMap_nil]

/-- The words of the bytes of words are these. -/
theorem wordsOf_flatMap {words : List Int} (h : ∀ n ∈ words, isWord n) :
    wordsOf (words.flatMap wordBytes) = words := by
  induction words with
  | nil => rfl
  | cons n words ih =>
    rw [List.flatMap_cons, wordOf_wordBytes (h n List.mem_cons_self),
      ih fun m hm => h m (List.mem_cons_of_mem n hm)]

theorem length_flatMap_wordBytes (words : List Int) :
    (words.flatMap wordBytes).length = 4 * words.length := by
  induction words with
  | nil => rfl
  | cons n words ih =>
    simp only [List.flatMap_cons, List.length_append, List.length_cons, ih, wordBytes,
      List.length_nil]
    omega

/-! ## Builds -/

variable {library : Library} {s : Setting Step} {root : Option Text} {unit : SourceUnit}
  {options : CompileOptions}

/-- A build has the words of the result if the library tells of success without a warning and has
    bytes, and no include failed. -/
theorem output_of_success (hc : s.compiler = .ok (compiler library)) {record : CallRecord Step}
    (hr : (build s (root.map .text) unit options).record = some record) {job : Job}
    (hjob : job ∈ jobsOf (stepsOf record.events)) {r : Result}
    (hresult : resultOf library true job (repliesOf (stepsOf record.events)) = some r)
    (hstatus : r.status = 0) (hwarnings : r.warningCount = 0) {bytes : Bytes}
    (hbytes : r.bytes = some bytes) (hincludes : firstFailure record.events = none) :
    ∃ out, (build s (root.map .text) unit options).result = .ok out ∧
      out.words = wordsOf bytes := by
  obtain ⟨-, -, -, -, -, hout⟩ := build_of_record hr
  have outcome : record.outcome = told (some r) := by
    obtain ⟨-, ho⟩ := outcome_of_job (runs_of_record hc hr) hjob
    rw [hincludes] at ho
    rw [← hresult]
    exact ho
  rcases told_cases (some r) with ⟨r', bytes', hr', -, hb', htold⟩ | ⟨hno, -⟩ | ⟨r', hr', -, hb', -⟩
  · cases hr'
    cases hbytes.symm.trans hb'
    rw [htold] at outcome
    refine ⟨⟨unit.path.toList ++ record.recorded, wordsOf bytes⟩, ?_, rfl⟩
    rw [hout]
    refine CallRecord.output_eq_ok_iff.2 ⟨_, outcome, ?_, rfl, rfl⟩
    simp [hwarnings]
  · exact absurd hstatus (hno r rfl)
  · cases hr'
    cases hbytes.symm.trans hb'

/-- **The bytes of a module come through as words.**

    If the library tells of success without a warning and has bytes, and no include failed, the
    output has the whole words of the bytes, and its bytes are these again, up to the last whole
    word.  A file that is written for it holds these bytes, unless its name asks for source text.

    Integers have bytes exactly if all of them are words, four for each, and these can be read
    back. -/
theorem bytes_kept (library : Library) :
    (∀ (s : Setting Step) (root : Option Text) unit options record job r bytes,
      s.compiler = .ok (compiler library) →
      (build s (root.map .text) unit options).record = some record →
      job ∈ jobsOf (stepsOf record.events) →
      resultOf library true job (repliesOf (stepsOf record.events)) = some r →
      r.status = 0 → r.bytes = some bytes → r.warningCount = 0 →
      firstFailure record.events = none →
      let whole := bytes.take (4 * (bytes.length / 4))
      ∃ out, (build s (root.map .text) unit options).result = .ok out ∧
        out.words.length = bytes.length / 4 ∧ (∀ n ∈ out.words, 0 ≤ n ∧ n < 2 ^ 32) ∧
        out.toBytes = .ok whole ∧ (4 ∣ bytes.length → whole = bytes) ∧
        ∀ t cwd filename depfile name t', BuildOutput.isModuleName filename = false →
          out.write t cwd filename depfile name = (.ok (), t') →
          (∀ path ∈ depfile, path ≠ [] → t'.placeAt cwd path ≠ t'.placeAt cwd filename) →
          t'.read cwd filename = .ok whole) ∧
    ∀ o : BuildOutput,
      (o.toBytes = .error .wordRange ↔ ∃ n ∈ o.words, ¬ (0 ≤ n ∧ n < 2 ^ 32)) ∧
      ((∀ n ∈ o.words, 0 ≤ n ∧ n < 2 ^ 32) → ∃ bytes, o.toBytes = .ok bytes ∧
        bytes.length = 4 * o.words.length ∧ wordsOf bytes = o.words) := by
  refine ⟨fun s root unit options record job r bytes hc hr hjob hresult hstatus hbytes hwarnings
    hincludes => ?_, fun o => ?_⟩
  · intro whole
    obtain ⟨out, hout, hwords⟩ :=
      output_of_success hc hr hjob hresult hstatus hwarnings hbytes hincludes
    have range : ∀ n ∈ out.words, isWord n := by
      rw [hwords]
      exact fun n hn => isWord_of_mem_wordsOf hn
    have written : out.toBytes = .ok whole := by
      rcases out.toBytes_cases with ⟨-, hb⟩ | ⟨⟨n, hn, hno⟩, -⟩
      · rw [hb, hwords, flatMap_wordsOf]
      · exact absurd (range n hn) hno
    refine ⟨out, hout, ?_, fun n hn => BuildOutput.isWord_iff.1 (range n hn), written, ?_, ?_⟩
    · rw [hwords, length_wordsOf]
    · rintro ⟨words, hw⟩
      exact List.take_of_length_le (by omega)
    · intro t cwd filename depfile name t' hn hw apart
      exact BuildOutput.read_of_write hn written hw apart
  · simp only [← BuildOutput.isWord_iff]
    rcases o.toBytes_cases with ⟨range, hb⟩ | ⟨⟨n, hn, hno⟩, hb⟩
    · refine ⟨⟨fun h => ?_, fun ⟨n, hn, hno⟩ => absurd (range n hn) hno⟩, fun _ => ?_⟩
      · cases hb.symm.trans h
      · exact ⟨_, hb, length_flatMap_wordBytes o.words, wordsOf_flatMap range⟩
    · exact ⟨⟨fun _ => ⟨n, hn, hno⟩, fun _ => hb⟩, fun range => absurd (range n hn) hno⟩

/-- Five bytes are one word, and the one that is left over is lost; two to the power of 32 is no
    word. -/
theorem bytes_kept_five :
    let script : Script := { bytes := some [3, 2, 35, 7, 9] }
    let unit : SourceUnit := ⟨text "x", text "a", none, none⟩
    (∃ out, (build (scripted script {}) none unit (.defaults [])).result = .ok out ∧
      out.words.length = 1 ∧ out.toBytes = .ok [3, 2, 35, 7] ∧
      ∀ t', out.write {} (text "/") (text "m.spv") none (.text BuildOutput.defaultName) =
        (.ok (), t') → t'.read (text "/") (text "m.spv") = .ok [3, 2, 35, 7]) ∧
      (⟨[], [2 ^ 32]⟩ : BuildOutput).toBytes = .error .wordRange ∧
      ∃ bytes, (⟨[], [2 ^ 32 - 1, 0]⟩ : BuildOutput).toBytes = .ok bytes ∧ bytes.length = 8 := by
  intro script unit
  let job : Job := .shader [120] Stage.inferFromSource.code [97] [109, 97, 105, 110]
  let bytes : Bytes := [3, 2, 35, 7, 9]
  let result : Result := ⟨0, some [], some bytes, 0⟩
  have seen : (build (scripted script {}) none unit (.defaults [])).record.map (fun record =>
      (jobsOf (stepsOf record.events),
        resultOf (ofScript script) true job (repliesOf (stepsOf record.events)),
        firstFailure record.events)) = some ([job], some result, none) := by decide +kernel
  obtain ⟨record, hr, hseen⟩ := Option.map_eq_some_iff.1 seen
  simp only [Prod.mk.injEq] at hseen
  obtain ⟨hjobs, hresult, hincludes⟩ := hseen
  have hjob : job ∈ jobsOf (stepsOf record.events) := by
    rw [hjobs]
    exact List.mem_singleton_self job
  have kept := bytes_kept (ofScript script)
  obtain ⟨out, hout, hlength, -, hbytes, -, hwrite⟩ :=
    kept.1 (scripted script {}) none unit (.defaults []) record job result bytes rfl hr hjob hresult
      rfl rfl rfl hincludes
  have words : bytes.length / 4 = 1 := by decide
  have whole : bytes.take (4 * (bytes.length / 4)) = [3, 2, 35, 7] := by decide
  rw [whole] at hbytes hwrite
  rw [words] at hlength
  have outside : ∃ n ∈ [(2 ^ 32 : Int)], ¬ (0 ≤ n ∧ n < 2 ^ 32) := by decide
  have inside : ∀ n ∈ [(2 ^ 32 - 1 : Int), 0], 0 ≤ n ∧ n < 2 ^ 32 := by decide
  obtain ⟨written, hb, hl, -⟩ := (kept.2 ⟨[], [2 ^ 32 - 1, 0]⟩).2 inside
  exact ⟨⟨out, hout, hlength, hbytes, fun t' hw =>
    hwrite _ _ _ none _ t' (by decide) hw nofun⟩, (kept.2 ⟨[], [2 ^ 32]⟩).1.2 outside, written, hb, hl⟩

end Library

end ShaderBuild
