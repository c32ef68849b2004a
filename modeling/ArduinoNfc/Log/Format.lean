import Mathlib.Tactic
import ArduinoNfc.Log.Definitions

/-!
# The arguments of a format string

`NfcLog::print` takes an argument whenever it meets a conversion, without knowing how
many there are.  `format_eq_some_iff` says for which arguments that is defined: the
kinds that the string asks for come first among theirs.  What lies behind them is
neither read nor taken.
-/

namespace ArduinoNfc
namespace Log

/-- What `va_arg` is asked for. -/
inductive ArgKind where
  | int
  | long
  | str
  deriving DecidableEq, Repr

def VaArg.kind : VaArg → ArgKind
  | .int _ => .int
  | .long _ => .long
  | .str _ => .str

/-- The kind of argument that a conversion takes, if it takes one. -/
def conversionKind (c : Char) : Option ArgKind :=
  if c = 's' then
    some .str
  else if c = 'l' then
    some .long
  else if c = 'd' ∨ c = 'i' ∨ c = 'x' ∨ c = 'X' ∨ c = 'b' ∨ c = 'B' ∨ c = 'c' ∨ c = 't' ∨
      c = 'T' then
    some .int
  else
    none

/-- The kinds of argument that a format string asks for, in order. -/
def kinds : List Char → List ArgKind
  | [] => []
  | c :: str =>
      if c = '%' then
        match str with
        | [] => []
        | d :: str => (conversionKind d).toList ++ kinds str
      else
        kinds str

/-! ## One conversion -/

/-- Take the next argument, if it is of the kind that is asked for. -/
def takeArg (kind : ArgKind) (print : VaArg → List Char) :
    List VaArg → Option (List Char × List VaArg)
  | [] => none
  | arg :: args => if arg.kind = kind then some (print arg, args) else none

theorem vaInt_eq (print : BitVec 32 → List Char) :
    vaInt print = takeArg .int fun | .int n => print n | _ => [] := by
  funext args
  cases args with
  | nil => rfl
  | cons arg args => cases arg <;> rfl

theorem vaLong_eq (print : BitVec 32 → List Char) :
    vaLong print = takeArg .long fun | .long n => print n | _ => [] := by
  funext args
  cases args with
  | nil => rfl
  | cons arg args => cases arg <;> rfl

theorem vaStr_eq : vaStr = takeArg .str fun | .str s => s | _ => [] := by
  funext args
  cases args with
  | nil => rfl
  | cons arg args => cases arg <;> rfl

/-- The characters that `NfcLog::print` knows behind a `%`. -/
def conversions : List Char :=
  ['%', 's', 'd', 'i', 'x', 'X', 'b', 'B', 'l', 'c', 't', 'T']

/-- A conversion takes one argument of its kind, or none at all. -/
inductive Converts (c : Char) : Prop where
  | plain (text : List Char) (kind_eq : conversionKind c = none)
      (run_eq : ∀ args, conversion c args = some (text, args))
  | takes (kind : ArgKind) (print : VaArg → List Char) (kind_eq : conversionKind c = some kind)
      (run_eq : ∀ args, conversion c args = takeArg kind print args)

theorem conversion_cases (c : Char) : Converts c := by
  by_cases h : c ∈ conversions
  · have hint : ∀ print, conversionKind c = some .int → conversion c = vaInt print → Converts c :=
      fun print hkind hrun => .takes .int _ hkind fun args => by rw [hrun, vaInt_eq]
    simp only [conversions, List.mem_cons, List.not_mem_nil, or_false] at h
    rcases h with rfl | rfl | rfl | rfl | rfl | rfl | rfl | rfl | rfl | rfl | rfl | rfl
    · exact .plain ['%'] rfl fun _ => rfl
    · exact .takes .str _ rfl fun args => congrFun vaStr_eq args
    · exact hint _ rfl rfl
    · exact hint _ rfl rfl
    · exact hint _ rfl rfl
    · exact hint _ rfl rfl
    · exact hint _ rfl rfl
    · exact hint _ rfl rfl
    · exact .takes .long _ rfl fun args => congrFun (vaLong_eq _) args
    · exact hint _ rfl rfl
    · exact hint _ rfl rfl
    · exact hint _ rfl rfl
  · simp only [conversions, List.mem_cons, List.not_mem_nil, or_false, not_or] at h
    refine .plain [c] ?_ fun args => ?_
    · simp [conversionKind, h]
    · simp [conversion, h]

/-- A conversion goes through when an argument of its kind is there, and leaves the
others. -/
theorem conversion_eq_some_iff (c : Char) {args rest : List VaArg} {text : List Char} :
    conversion c args = some (text, rest) ↔
      ∃ used, args = used ++ rest ∧ used.map VaArg.kind = (conversionKind c).toList ∧
        conversion c used = some (text, []) := by
  cases conversion_cases c with
  | plain plainText kind_eq run_eq =>
      simp only [kind_eq, run_eq, Option.toList_none, List.map_eq_nil_iff]
      constructor
      · rintro h
        cases h
        exact ⟨[], rfl, rfl, rfl⟩
      · rintro ⟨used, rfl, rfl, h⟩
        cases h
        rfl
  | takes kind print kind_eq run_eq =>
      simp only [kind_eq, run_eq, Option.toList_some, List.map_eq_singleton_iff]
      constructor
      · intro h
        cases args with
        | nil => cases h
        | cons arg tail =>
            obtain ⟨harg, htext⟩ := Option.ite_none_right_eq_some.mp h
            cases htext
            exact ⟨[arg], rfl, ⟨arg, rfl, harg⟩, if_pos harg⟩
      · rintro ⟨used, rfl, ⟨arg, rfl, harg⟩, h⟩
        cases (if_pos harg).symm.trans h
        exact if_pos harg

theorem conversion_of_kind {c : Char} {used : List VaArg}
    (h : used.map VaArg.kind = (conversionKind c).toList) :
    ∃ text, conversion c used = some (text, []) := by
  cases conversion_cases c with
  | plain text kind_eq run_eq =>
      rw [kind_eq, Option.toList_none, List.map_eq_nil_iff] at h
      rw [h]
      exact ⟨text, run_eq []⟩
  | takes kind print kind_eq run_eq =>
      rw [kind_eq, Option.toList_some, List.map_eq_singleton_iff] at h
      obtain ⟨arg, rfl, harg⟩ := h
      exact ⟨print arg, (run_eq _).trans (if_pos harg)⟩

/-! ## The whole string -/

theorem format_char {c : Char} (hc : c ≠ '%') (str : List Char) (args : List VaArg) :
    format (c :: str) args = (format str args).map fun rest => (c :: rest.1, rest.2) := by
  rw [format.eq_def]
  exact if_neg hc

theorem kinds_char {c : Char} (hc : c ≠ '%') (str : List Char) :
    kinds (c :: str) = kinds str := by
  rw [kinds.eq_def]
  exact if_neg hc

/-- A conversion and what follows it. -/
theorem format_conversion_iff {d : Char} {str : List Char} {args rest : List VaArg}
    {text : List Char} :
    format ('%' :: d :: str) args = some (text, rest) ↔
      ∃ front mid back, text = front ++ back ∧ conversion d args = some (front, mid) ∧
        format str mid = some (back, rest) := by
  have hrun : format ('%' :: d :: str) args = (conversion d args).bind fun r =>
      (format str r.2).map fun rest => (r.1 ++ rest.1, rest.2) := rfl
  simp only [hrun, Option.bind_eq_some_iff, Option.map_eq_some_iff, Prod.mk.injEq, Prod.exists]
  constructor
  · rintro ⟨front, mid, hconv, back, rest', hback, rfl, rfl⟩
    exact ⟨front, mid, back, rfl, hconv, hback⟩
  · rintro ⟨front, mid, back, rfl, hconv, hback⟩
    exact ⟨front, mid, hconv, back, rest, hback, rfl, rfl⟩

/-- The text of a format string is made of the arguments that it asks for, which come
first, and the others are left. -/
theorem format_eq_some_iff (str : List Char) {args rest : List VaArg} {text : List Char} :
    format str args = some (text, rest) ↔
      ∃ used, args = used ++ rest ∧ used.map VaArg.kind = kinds str ∧
        format str used = some (text, []) := by
  induction str using kinds.induct generalizing args rest text with
  | case1 =>
      constructor
      · intro h
        cases h
        exact ⟨[], rfl, rfl, rfl⟩
      · rintro ⟨used, rfl, hused, h⟩
        obtain rfl := List.map_eq_nil_iff.mp hused
        cases h
        rfl
  | case2 =>
      constructor
      · intro h
        cases h
        exact ⟨[], rfl, rfl, rfl⟩
      · rintro ⟨used, rfl, hused, h⟩
        obtain rfl := List.map_eq_nil_iff.mp hused
        cases h
        rfl
  | case3 d str ih =>
      constructor
      · intro h
        obtain ⟨front, mid, back, rfl, hconv, hback⟩ := format_conversion_iff.mp h
        obtain ⟨first, rfl, hfirst, hfront⟩ := (conversion_eq_some_iff d).mp hconv
        obtain ⟨later, rfl, hlater, hlast⟩ := ih.mp hback
        refine ⟨first ++ later, (List.append_assoc _ _ _).symm, ?_, ?_⟩
        · rw [List.map_append, hfirst, hlater]
          rfl
        · exact format_conversion_iff.mpr ⟨front, later, back, rfl,
            (conversion_eq_some_iff d).mpr ⟨first, rfl, hfirst, hfront⟩, hlast⟩
      · rintro ⟨used, rfl, -, h⟩
        obtain ⟨front, mid, back, rfl, hconv, hback⟩ := format_conversion_iff.mp h
        obtain ⟨first, rfl, hfirst, hfront⟩ := (conversion_eq_some_iff d).mp hconv
        obtain ⟨later, hmid, hlater, hlast⟩ := ih.mp hback
        rw [List.append_nil] at hmid
        subst hmid
        refine format_conversion_iff.mpr ⟨front, mid ++ rest, back, rfl, ?_, ?_⟩
        · exact (conversion_eq_some_iff d).mpr
            ⟨first, List.append_assoc _ _ _, hfirst, hfront⟩
        · exact ih.mpr ⟨mid, rfl, hlater, hlast⟩
  | case4 c str hc ih =>
      simp only [kinds_char hc, format_char hc, Option.map_eq_some_iff, Prod.mk.injEq, Prod.exists]
      constructor
      · rintro ⟨tail, rest', h, rfl, rfl⟩
        obtain ⟨used, hargs, hused, htail⟩ := ih.mp h
        exact ⟨used, hargs, hused, tail, [], htail, rfl, rfl⟩
      · rintro ⟨used, hargs, hused, tail, -, htail, rfl, rfl⟩
        exact ⟨tail, rest, ih.mpr ⟨used, hargs, hused, htail⟩, rfl, rfl⟩

theorem format_of_kinds (str : List Char) {used : List VaArg}
    (h : used.map VaArg.kind = kinds str) : ∃ text, format str used = some (text, []) := by
  induction str using kinds.induct generalizing used with
  | case1 =>
      rw [List.map_eq_nil_iff.mp h]
      exact ⟨[], rfl⟩
  | case2 =>
      rw [List.map_eq_nil_iff.mp h]
      exact ⟨[], rfl⟩
  | case3 d str ih =>
      obtain ⟨first, later, rfl, hfirst, hlater⟩ := List.map_eq_append_iff.mp h
      obtain ⟨front, hfront⟩ := conversion_of_kind hfirst
      obtain ⟨back, hback⟩ := ih hlater
      exact ⟨front ++ back, format_conversion_iff.mpr ⟨front, later, back, rfl,
        (conversion_eq_some_iff d).mpr ⟨first, rfl, hfirst, hfront⟩, hback⟩⟩
  | case4 c str hc ih =>
      obtain ⟨text, htext⟩ := ih (h.trans (kinds_char hc str))
      exact ⟨c :: text, by rw [format_char hc, htext]; rfl⟩

/-- The arguments of a call start with those that its format string asks for. -/
def LogCall.Fits {β : Type} : LogCall β → Prop
  | .print _ str args => kinds str.toList <+: args.map VaArg.kind
  | .printBuffer _ _ _ _ => True

theorem format_isSome {str : List Char} {args : List VaArg}
    (h : kinds str <+: args.map VaArg.kind) : (format str args).isSome := by
  obtain ⟨more, hmore⟩ := h
  obtain ⟨used, rest, rfl, hused, -⟩ := List.map_eq_append_iff.mp hmore.symm
  obtain ⟨text, htext⟩ := format_of_kinds str hused
  rw [(format_eq_some_iff str).mpr ⟨used, rfl, hused, htext⟩]
  rfl

/-- Such a call has a text, at every level of the logger. -/
theorem LogCall.Fits.text {β : Type} {l : LogCall β} (h : l.Fits) (log : NfcLog)
    (address : β → Nat) : (l.text log address).isSome := by
  cases l with
  | print level str args =>
      show (log.print level str args).isSome
      unfold NfcLog.print
      split_ifs
      · rfl
      · rw [Option.isSome_map]
        exact format_isSome h
  | printBuffer level str buf bytes => rfl

/-- Lines of the level `ERROR`, which have their arguments. -/
def ErrorLines {β : Type} (lines : List (LogCall β)) : Prop := ∀ l ∈ lines, l.IsError ∧ l.Fits

theorem errorLines_nil {β : Type} : ErrorLines (β := β) [] := List.forall_mem_nil _

theorem errorLines_e {β : Type} {str : String} {args : List VaArg} (asked : List ArgKind)
    (hstr : kinds str.toList = asked) (hargs : asked <+: args.map VaArg.kind) :
    ErrorLines (β := β) [.e str args] := by
  subst hstr
  exact List.forall_mem_singleton.mpr ⟨⟨_, _, rfl⟩, hargs⟩

/-- `NfcLog::print` finds the arguments that it takes exactly when their kinds start with
those of the format string; what follows them has no part in the text. -/
theorem format_defined (str : List Char) (args : List VaArg) :
    ((format str args).isSome ↔ kinds str <+: args.map VaArg.kind) ∧
      ∀ text rest, format str args = some (text, rest) →
        ∃ used, args = used ++ rest ∧ used.map VaArg.kind = kinds str ∧
          ∀ more, format str (used ++ more) = some (text, more) := by
  constructor
  · constructor
    · intro h
      obtain ⟨⟨text, rest⟩, hrun⟩ := Option.isSome_iff_exists.mp h
      obtain ⟨used, rfl, hused, -⟩ := (format_eq_some_iff str).mp hrun
      rw [List.map_append, hused]
      exact List.prefix_append _ _
    · exact format_isSome
  · intro text rest h
    obtain ⟨used, hargs, hused, htext⟩ := (format_eq_some_iff str).mp h
    exact ⟨used, hargs, hused, fun more =>
      (format_eq_some_iff str).mpr ⟨used, rfl, hused, htext⟩⟩

end Log
end ArduinoNfc
