import LoopbackCalibration.Proofs.Text.Pieces
import LoopbackCalibration.Simulator.Model

/-! # Arguments that override others

Arguments after a comma are read behind those before it, and of all values for a key only the last
one counts: it is looked up (`DeviceArguments.get?_eq_some_iff`), and the model of a simulated
device is made of it. A value that cannot be read is refused only where it is the last one, and of
several such values the one for the seed is refused before that for the noise, and both before that
for the read size (`DeviceArguments.overrides_apply`).
-/

namespace LoopbackCalibration

namespace DeviceArguments

variable {arguments : DeviceArguments} {key value : String}

/-- The key is that of an item. -/
def Mentions (arguments : DeviceArguments) (key : String) : Prop :=
  ∃ pair ∈ arguments.pairs, pair.1 = key

instance (arguments : DeviceArguments) (key : String) : Decidable (arguments.Mentions key) :=
  inferInstanceAs (Decidable (∃ pair ∈ arguments.pairs, _))

/-- The last item with the key has the value. -/
def Settles (arguments : DeviceArguments) (key value : String) : Prop :=
  ∃ before after, arguments.pairs = before ++ (key, value) :: after ∧
    ∀ pair ∈ after, pair.1 ≠ key

theorem get?_eq_some_iff : arguments.get? key = some value ↔ arguments.Settles key value := by
  constructor
  · intro found
    obtain ⟨pair, last, rfl⟩ := Option.map_eq_some_iff.mp found
    obtain ⟨same, after, before, split, later⟩ := List.find?_eq_some_iff_append.mp last
    rw [List.reverse_eq_iff, List.reverse_append, List.reverse_cons, List.append_assoc] at split
    obtain rfl : pair.1 = key := by simpa using same
    refine ⟨before.reverse, after.reverse, split, ?_⟩
    intro other member
    simpa using later other (List.mem_reverse.mp member)
  · intro settles
    obtain ⟨before, after, split, later⟩ := settles
    have passed : after.reverse.find? (fun pair => pair.1 == key) = none := by
      rw [List.find?_eq_none]
      intro pair member
      simpa using later pair (List.mem_reverse.mp member)
    rw [get?, split, List.reverse_append, List.reverse_cons, List.append_assoc, List.find?_append,
      passed]
    simp

theorem get?_eq_none_iff : arguments.get? key = none ↔ ¬arguments.Mentions key := by
  simp only [get?, Mentions, Option.map_eq_none_iff, List.find?_eq_none, List.mem_reverse,
    beq_iff_eq, not_exists, not_and]

theorem pairs_parse_append (first second : String) :
    (parse (first ++ "," ++ second)).pairs = (parse first).pairs ++ (parse second).pairs := by
  have joined : (first ++ "," ++ second).toList = first.toList ++ ',' :: second.toList := by simp
  simp only [parse, joined, Text.split_append_cons, List.map_append, List.filter_append]

theorem get?_append (first second : List (String × String)) (key : String) :
    get? ⟨first ++ second⟩ key = (get? ⟨second⟩ key).or (get? ⟨first⟩ key) := by
  simp [get?, Option.map_or]

variable {β : Type} {read? : List Char → Option β}

/-- What a quantity is set to: what the last value for its key reads as, or its default. -/
def Sets (arguments : DeviceArguments) (key : String) (read? : List Char → Option β)
    (default value : β) : Prop :=
  if arguments.Mentions key then
    ∃ text, arguments.Settles key text ∧ read? text.toList = some value
  else
    value = default

/-- The last value for a key cannot be read. -/
def Refuses (arguments : DeviceArguments) (key : String) (read? : List Char → Option β)
    (text : String) : Prop :=
  arguments.Settles key text ∧ read? text.toList = none

theorem mentions_iff : arguments.Mentions key ↔ ∃ value, arguments.Settles key value := by
  simp only [← get?_eq_some_iff, ← Option.isSome_iff_exists, Option.isSome_iff_ne_none, ne_eq,
    get?_eq_none_iff, not_not]

theorem not_settles_of_not_mentions (silent : ¬arguments.Mentions key) (text : String) :
    ¬arguments.Settles key text :=
  fun settles => silent (mentions_iff.mpr ⟨text, settles⟩)

theorem Settles.eq_iff (settles : arguments.Settles key value) {other : String} :
    arguments.Settles key other ↔ other = value := by
  rw [← get?_eq_some_iff] at settles ⊢
  rw [settles, Option.some.injEq, eq_comm]

end DeviceArguments

namespace LoopbackModel

open DeviceArguments

variable {arguments : DeviceArguments} {key text : String} {β : Type}
  {read? : List Char → Option β} {update : LoopbackModel Float → β → LoopbackModel Float}
  {model : LoopbackModel Float}

theorem withArgument_of_not_mentions (silent : ¬arguments.Mentions key) :
    withArgument arguments key read? update model = .ok model := by
  rw [withArgument, get?_eq_none_iff.mpr silent]

theorem withArgument_of_settles {value : β} (settles : arguments.Settles key text)
    (read : read? text.toList = some value) :
    withArgument arguments key read? update model = .ok (update model value) := by
  simp only [withArgument, get?_eq_some_iff.mpr settles, read]

theorem withArgument_of_refuses (refuses : arguments.Refuses key read? text) :
    withArgument arguments key read? update model =
      .error (.configuration "parse_args" s!"invalid {key}: {text}") := by
  simp only [withArgument, get?_eq_some_iff.mpr refuses.1, refuses.2]

/-- The default is what the model holds. -/
theorem withArgument_eq_ok_iff (default : β) (held : update model default = model)
    {result : LoopbackModel Float} : withArgument arguments key read? update model = .ok result ↔
      ∃ value, arguments.Sets key read? default value ∧ result = update model value := by
  by_cases given : arguments.Mentions key
  · obtain ⟨text, settles⟩ := mentions_iff.mp given
    cases read : read? text.toList with
    | none => simp [withArgument_of_refuses ⟨settles, read⟩, Sets, given, settles.eq_iff, read]
    | some value =>
        simp [withArgument_of_settles settles read, Sets, given, settles.eq_iff, read, eq_comm]
  · simp [withArgument_of_not_mentions given, Sets, given, held, eq_comm]

theorem withArgument_eq_error_iff {error : DeviceError} :
    withArgument arguments key read? update model = .error error ↔
      ∃ text, arguments.Refuses key read? text ∧
        error = .configuration "parse_args" s!"invalid {key}: {text}" := by
  by_cases given : arguments.Mentions key
  · obtain ⟨text, settles⟩ := mentions_iff.mp given
    cases read : read? text.toList with
    | none => simp [withArgument_of_refuses ⟨settles, read⟩, Refuses, settles.eq_iff, read, eq_comm]
    | some value => simp [withArgument_of_settles settles read, Refuses, settles.eq_iff, read]
  · simp [withArgument_of_not_mentions given, Refuses, not_settles_of_not_mentions given]

theorem exists_withArgument_eq_ok_iff :
    (∃ result, withArgument arguments key read? update model = .ok result) ↔
      ¬∃ text, arguments.Refuses key read? text := by
  constructor
  · intro succeeds refused
    obtain ⟨result, succeeds⟩ := succeeds
    obtain ⟨text, refuses⟩ := refused
    rw [withArgument_of_refuses refuses] at succeeds
    cases succeeds
  · intro accepted
    cases outcome : withArgument arguments key read? update model with
    | ok result => exact ⟨result, rfl⟩
    | error cause =>
        obtain ⟨text, refuses, -⟩ := withArgument_eq_error_iff.mp outcome
        exact absurd ⟨text, refuses⟩ accepted

/-- Every number is that of the last value for its key, and all else is standard. -/
structure Follows (arguments : DeviceArguments) (model : LoopbackModel Float) : Prop where
  seed : arguments.Sets "seed" (Decimal.readCount? Decimal.limit64)
    (standard (α := Float)).seed model.seed
  noise : arguments.Sets "noise" Decimal.readReal? standard.noiseRms model.noiseRms
  maxRead : arguments.Sets "max_read" (Decimal.readCount? Decimal.limit64)
    (standard (α := Float)).maxRead model.maxRead
  rest : model = { standard with
    seed := model.seed
    noiseRms := model.noiseRms
    maxRead := model.maxRead }

/-- The key is the first of those looked at whose last value cannot be read, which is the text. -/
inductive Blames (arguments : DeviceArguments) : String → String → Prop
  | seed {text : String}
      (refuses : arguments.Refuses "seed" (Decimal.readCount? Decimal.limit64) text) :
      Blames arguments "seed" text
  | noise {text : String}
      (seed : ¬∃ text, arguments.Refuses "seed" (Decimal.readCount? Decimal.limit64) text)
      (refuses : arguments.Refuses "noise" Decimal.readReal? text) :
      Blames arguments "noise" text
  | maxRead {text : String}
      (seed : ¬∃ text, arguments.Refuses "seed" (Decimal.readCount? Decimal.limit64) text)
      (noise : ¬∃ text, arguments.Refuses "noise" Decimal.readReal? text)
      (refuses : arguments.Refuses "max_read" (Decimal.readCount? Decimal.limit64) text) :
      Blames arguments "max_read" text

private theorem except_bind_eq_ok_iff {ε σ τ : Type} {first : Except ε σ}
    {next : σ → Except ε τ} {result : τ} : first >>= next = .ok result ↔
      ∃ value, first = .ok value ∧ next value = .ok result := by
  cases first with
  | error cause => simp [bind, Except.bind]
  | ok value => simp [bind, Except.bind]

private theorem except_bind_eq_error_iff {ε σ τ : Type} {first : Except ε σ}
    {next : σ → Except ε τ} {cause : ε} : first >>= next = .error cause ↔
      first = .error cause ∨ ∃ value, first = .ok value ∧ next value = .error cause := by
  cases first with
  | error cause => simp [bind, Except.bind]
  | ok value => simp [bind, Except.bind]

theorem ofArguments_eq_ok_iff : ofArguments arguments = .ok model ↔ Follows arguments model := by
  unfold ofArguments
  simp only [except_bind_eq_ok_iff]
  constructor
  · intro succeeds
    obtain ⟨seeded, seeding, noisy, disturbing, limiting⟩ := succeeds
    obtain ⟨seed, seed_sets, rfl⟩ :=
      (withArgument_eq_ok_iff (standard (α := Float)).seed rfl).mp seeding
    obtain ⟨noiseRms, noise_sets, rfl⟩ :=
      (withArgument_eq_ok_iff standard.noiseRms rfl).mp disturbing
    obtain ⟨maxRead, maxRead_sets, rfl⟩ :=
      (withArgument_eq_ok_iff (standard (α := Float)).maxRead rfl).mp limiting
    exact ⟨seed_sets, noise_sets, maxRead_sets, rfl⟩
  · intro follows
    refine ⟨_, (withArgument_eq_ok_iff _ rfl).mpr ⟨_, follows.seed, rfl⟩,
      _, (withArgument_eq_ok_iff _ rfl).mpr ⟨_, follows.noise, rfl⟩,
      (withArgument_eq_ok_iff _ rfl).mpr ⟨_, follows.maxRead, follows.rest⟩⟩

theorem ofArguments_eq_error_iff {error : DeviceError} : ofArguments arguments = .error error ↔
    ∃ key text, Blames arguments key text ∧
      error = .configuration "parse_args" s!"invalid {key}: {text}" := by
  unfold ofArguments
  simp only [except_bind_eq_error_iff]
  constructor
  · intro fails
    obtain refused | ⟨seeded, seeding, refused | ⟨noisy, disturbing, refused⟩⟩ := fails
    · obtain ⟨text, refuses, rfl⟩ := withArgument_eq_error_iff.mp refused
      exact ⟨"seed", text, .seed refuses, rfl⟩
    · obtain ⟨text, refuses, rfl⟩ := withArgument_eq_error_iff.mp refused
      have seed := exists_withArgument_eq_ok_iff.mp ⟨seeded, seeding⟩
      exact ⟨"noise", text, .noise seed refuses, rfl⟩
    · obtain ⟨text, refuses, rfl⟩ := withArgument_eq_error_iff.mp refused
      have seed := exists_withArgument_eq_ok_iff.mp ⟨seeded, seeding⟩
      have noise := exists_withArgument_eq_ok_iff.mp ⟨noisy, disturbing⟩
      exact ⟨"max_read", text, .maxRead seed noise refuses, rfl⟩
  · intro blamed
    obtain ⟨key, text, blames, rfl⟩ := blamed
    cases blames with
    | seed refuses => exact .inl (withArgument_of_refuses refuses)
    | noise seed refuses =>
        obtain ⟨seeded, seeding⟩ := exists_withArgument_eq_ok_iff.mpr seed
        exact .inr ⟨seeded, seeding, .inl (withArgument_of_refuses refuses)⟩
    | maxRead seed noise refuses =>
        obtain ⟨seeded, seeding⟩ := exists_withArgument_eq_ok_iff.mpr seed
        obtain ⟨noisy, disturbing⟩ := exists_withArgument_eq_ok_iff.mpr noise
        exact .inr ⟨seeded, seeding, .inr ⟨noisy, disturbing, withArgument_of_refuses refuses⟩⟩

theorem exists_blames_iff : (∃ key text, Blames arguments key text) ↔
    (∃ text, arguments.Refuses "seed" (Decimal.readCount? Decimal.limit64) text) ∨
    (∃ text, arguments.Refuses "noise" Decimal.readReal? text) ∨
    ∃ text, arguments.Refuses "max_read" (Decimal.readCount? Decimal.limit64) text := by
  constructor
  · intro blamed
    obtain ⟨key, text, blames⟩ := blamed
    cases blames with
    | seed refuses => exact .inl ⟨text, refuses⟩
    | noise _ refuses => exact .inr (.inl ⟨text, refuses⟩)
    | maxRead _ _ refuses => exact .inr (.inr ⟨text, refuses⟩)
  · intro refused
    by_cases seed : ∃ text, arguments.Refuses "seed" (Decimal.readCount? Decimal.limit64) text
    · obtain ⟨text, refuses⟩ := seed
      exact ⟨"seed", text, .seed refuses⟩
    by_cases noise : ∃ text, arguments.Refuses "noise" Decimal.readReal? text
    · obtain ⟨text, refuses⟩ := noise
      exact ⟨"noise", text, .noise seed refuses⟩
    obtain ⟨text, refuses⟩ := (refused.resolve_left seed).resolve_left noise
    exact ⟨"max_read", text, .maxRead seed noise refuses⟩

/-- **Of all values the last ones apply.** What follows a comma is read behind what comes before it,
so its values override those for the same keys and leave the others. The model of a simulated
device follows the last values for its three numbers. There is no model just if one of these
cannot be read, and the error names the first such key and its last value. -/
theorem overrides_apply :
    (∀ first second : String,
      (parse (first ++ "," ++ second)).pairs = (parse first).pairs ++ (parse second).pairs ∧
      ∀ key, (parse (first ++ "," ++ second)).get? key =
        if (parse second).Mentions key then (parse second).get? key
        else (parse first).get? key) ∧
    (∀ (arguments : DeviceArguments) (key value : String),
      arguments.get? key = some value ↔ arguments.Settles key value) ∧
    ∀ arguments : DeviceArguments,
      (∀ model, ofArguments arguments = .ok model ↔ Follows arguments model) ∧
      ((∃ error, ofArguments arguments = .error error) ↔
        (∃ text, arguments.Refuses "seed" (Decimal.readCount? Decimal.limit64) text) ∨
        (∃ text, arguments.Refuses "noise" Decimal.readReal? text) ∨
        ∃ text, arguments.Refuses "max_read" (Decimal.readCount? Decimal.limit64) text) ∧
      ∀ error, ofArguments arguments = .error error ↔ ∃ key text, Blames arguments key text ∧
        error = .configuration "parse_args" s!"invalid {key}: {text}" := by
  refine ⟨fun first second => ⟨pairs_parse_append first second, fun key => ?_⟩,
    fun arguments key value => get?_eq_some_iff, fun arguments =>
      ⟨fun model => ofArguments_eq_ok_iff, ?_, fun error => ofArguments_eq_error_iff⟩⟩
  · have overrides := get?_append (parse first).pairs (parse second).pairs key
    rw [← pairs_parse_append first second] at overrides
    by_cases given : (parse second).Mentions key
    · obtain ⟨text, settles⟩ := mentions_iff.mp given
      rw [if_pos given, overrides, get?_eq_some_iff.mpr settles]
      rfl
    · rw [if_neg given, overrides, get?_eq_none_iff.mpr given]
      rfl
  · rw [← exists_blames_iff]
    simp only [ofArguments_eq_error_iff]
    constructor
    · intro fails
      obtain ⟨error, key, text, blames, -⟩ := fails
      exact ⟨key, text, blames⟩
    · intro blamed
      obtain ⟨key, text, blames⟩ := blamed
      exact ⟨_, key, text, blames, rfl⟩

end LoopbackModel

end LoopbackCalibration
