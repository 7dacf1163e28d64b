/-
  The parsers of options and invocations on two streams, side by side.

  * `Pairing.keeps_entry`, `Pairing.keeps_entries`: entries, and lists of them;
  * `Pairing.keeps_optionText`, `Pairing.keeps_fileInvocation`, `Pairing.keeps_sourceInvocation`:
    what makes up a text.
-/
import ShaderBuild.Proofs.Fault
import ShaderBuild.Proofs.Invocation.InStep
import ShaderBuild.Proofs.Options.Reading

namespace ShaderBuild

namespace Pairing

open Token (Content)
open ShaderBuild.Parser

variable {m : Pairing} {α : Type}

/-! ## Entries -/

/-- A word that is looked up. -/
theorem keeps_lookup (find? : Text → Option α) (fault : Text → ConfigFault) :
    m.Keeps Eq (lookup find? fault) (lookup find? fault) := by
  refine keeps_ident.andThen fun a b h => ?_
  rw [← h.value_eq picks_ident nofun]
  cases find? a.value with
  | some v => exact keeps_yield rfl
  | none => exact keeps_fail (m.cites h.token fun _ => rfl)

/-- A version: integers that are none fail, whatever their numbers are. -/
theorem keeps_version : m.Keeps Eq version version := by
  refine keeps_int.andThen fun a b h => ?_
  rcases m.alike h.token with ha | ⟨⟨n, hn, hv⟩, ⟨n', hn', hv'⟩, all⟩
  · have same : a.value = b.value :=
      Content.int.inj (h.left.symm.trans (ha.content.trans h.right))
    rw [← same]
    cases CompileOptions.version? a.value with
    | some v => exact keeps_yield rfl
    | none =>
      cases Fault.writable_cases a.value with
      | inl hw =>
        simp only [hw]
        exact keeps_fail (m.cites h.token fun _ => rfl)
      | inr hw =>
        simp only [hw]
        exact keeps_fail (m.value _)
  · obtain rfl : a.value = n := Content.int.inj (h.left.symm.trans hn)
    obtain rfl : b.value = n' := Content.int.inj (h.right.symm.trans hn')
    simp only [hv, hv']
    cases Fault.writable a.value <;> cases Fault.writable b.value <;> exact keeps_fail (all _ _)

theorem keeps_macroValue : m.Keeps Eq macroValue macroValue := by
  have eq : macroValue = branch (fun t => t.content = Grammar.comma || t.isFinish)
      (yield none) (andThen str fun t => yield (some t.value)) := rfl
  rw [eq]
  refine .branch (fun ht => ?_) (keeps_yield rfl)
    (keeps_str.andThen fun a b h => keeps_yield (congrArg some (h.value_eq picks_str nofun)))
  have same := content_iff ht (c := Grammar.comma) nofun
  simp only [same, isFinish_eq ht]

/-- A colon, and what makes an entry behind it. -/
theorem keeps_valued {p : Parser α} (make : α → Entry) (hp : m.Keeps Eq p p) :
    m.Keeps Eq (andThen (punct (text ":")) fun _ => andThen p fun a => yield (make a))
      (andThen (punct (text ":")) fun _ => andThen p fun a => yield (make a)) :=
  (keeps_punct _).andThen fun _ _ _ => hp.map make

/-- What follows the key of an entry. -/
theorem keeps_entryOf (key : Entry.Key) : m.Keeps Eq (entryOf key) (entryOf key) := by
  cases key with
  | kind => exact keeps_valued .stage (keeps_lookup _ _)
  | version => exact keeps_valued .version keeps_version
  | strip => exact keeps_yield rfl
  | debug => exact keeps_yield rfl
  | define =>
    refine (keeps_punct _).andThen fun _ _ _ => keeps_ident.andThen fun a b h => ?_
    rw [← h.value_eq picks_ident nofun]
    exact keeps_macroValue.map fun value => Entry.define (a.value, value)
  | optimize => exact keeps_valued .optimize (keeps_lookup _ _)
  | target => exact keeps_valued .target (keeps_lookup _ _)

theorem keeps_entry : m.Keeps Eq entry entry :=
  (keeps_lookup _ _).andThen fun key _ hkey => hkey ▸ keeps_entryOf key

/-! ## Lists -/

theorem size_of_punct? {symbol : Text} {s r : TokenStream} (h : punct? symbol s = (.ok true, r)) :
    r.size < s.size := by
  unfold punct? at h
  split at h
  · rename_i hc
    cases h
    have unfinished : s.isEmpty = false :=
      Parser.isFinish_eq (of_decide_eq_true hc) (by simp [Content.kind])
    have := TokenStream.size_pos_of_not_isEmpty unfinished
    rw [TokenStream.size_next]
    omega
  · cases h

/-- A list of entries. -/
theorem keeps_entries : m.Keeps Eq entries entries := by
  intro s s' hs
  -- every round takes a comma at least, so the induction is on what is left before the end
  induction hn : s.size using Nat.strongRecOn generalizing s s' with
  | ind n ih =>
    subst hn
    rw [entries_eq]
    refine .branch hs (fun ht => by rw [kind_eq ht]) ?_ (.ok ⟨rfl, hs⟩)
    refine (keeps_entry s s' hs).andThen fun e _ r r' hrun ⟨he, hr⟩ => ?_
    subst he
    refine (keeps_punct? _ r r' hr).andThen fun found _ q q' hfound ⟨hsame, hq⟩ => ?_
    subst hsame
    cases found with
    | false => exact .ok ⟨rfl, hq⟩
    | true =>
      have steady : r.size ≤ s.size := by simpa [hrun] using steady_entry s
      have shorter := Nat.lt_of_lt_of_le (size_of_punct? hfound) steady
      refine (ih q.size shorter q q' hq rfl).andThen fun list _ _ _ _ ⟨hlist, hrest⟩ => ?_
      exact .ok ⟨congrArg (fun l : List Entry × Bool => (e :: l.1, l.2)) hlist, hrest⟩

theorem keeps_options (env : Environment) : m.Keeps Eq (options env) (options env) :=
  keeps_entries.map fun list => OptionList.mk (optionsOf env list.1) list.2

/-! ## Texts -/

theorem keeps_optionText (env : Environment) : m.Keeps Eq (optionText env) (optionText env) :=
  .whole ((keeps_options env).map OptionList.options)

theorem keeps_trailingOptions (env : Environment) :
    m.Keeps Eq (trailingOptions env) (trailingOptions env) := by
  refine (keeps_punct? _).andThen fun found _ h => ?_
  subst h
  cases found with
  | false => exact keeps_yield rfl
  | true => exact (keeps_options env).map OptionList.options

theorem keeps_fileInvocation (env : Environment) :
    m.Keeps (fun a b => a.1.value = b.1.value ∧ a.2 = b.2) (fileInvocation env)
      (fileInvocation env) := by
  refine .whole (keeps_str.andThen fun a b h => (keeps_trailingOptions env).andThen fun o _ ho => ?_)
  exact keeps_yield ⟨h.value_eq picks_str nofun, ho⟩

theorem keeps_leadingOptions (env : Environment) :
    m.Keeps Eq (leadingOptions env) (leadingOptions env) := by
  refine (keeps_options env).andThen fun list _ h => ?_
  subst h
  cases list.unterminated with
  | false => exact keeps_yield rfl
  | true => exact (keeps_punct _).andThen fun _ _ _ => keeps_yield rfl

theorem keeps_sourceInvocation (env : Environment) :
    m.Keeps (fun a b => a.1.value = b.1.value ∧ a.2 = b.2) (sourceInvocation env)
      (sourceInvocation env) := by
  refine .whole ((keeps_leadingOptions env).andThen fun o _ ho => ?_)
  refine keeps_str.andThen fun a b h => (keeps_punct? _).andThen fun _ _ _ => ?_
  exact keeps_yield ⟨h.value_eq picks_str nofun, ho⟩

end Pairing

end ShaderBuild
