import LoopbackCalibration.Device.Arguments
import LoopbackCalibration.Proofs.Text.Pieces

/-! # Arguments written and read again

Pairs that were read are legible: the ends of key and value are not blank, and there is no comma
in them and no equals sign in the key. A legible pair is read back from the item that it is written
as, unless key and value are both empty. Then nothing is written, and the pair is lost
(`DeviceArguments.parse_display`).
-/

namespace LoopbackCalibration

namespace DeviceArguments

variable {item : List Char} {pair : String × String} {arguments : DeviceArguments}

/-- The pair can be told from the text of its item. -/
structure Legible (pair : String × String) : Prop where
  key_neat : Text.Neat pair.1.toList
  value_neat : Text.Neat pair.2.toList
  key_whole : ',' ∉ pair.1.toList
  value_whole : ',' ∉ pair.2.toList
  key_simple : '=' ∉ pair.1.toList

/-- There is neither a key nor a value. -/
def Nameless (pair : String × String) : Prop :=
  pair = ("", "")

instance (pair : String × String) : Decidable (Nameless pair) :=
  inferInstanceAs (Decidable (_ = _))

theorem parseItem_bare (bare : '=' ∉ item) : parseItem item = (String.ofList item, "") := by
  simp only [parseItem, Text.splitOnce?_of_not_mem bare]

theorem parseItem_assigned {key value : List Char} (simple : '=' ∉ key) :
    parseItem (key ++ '=' :: value) =
      (String.ofList (Text.trim key), String.ofList (Text.trim value)) := by
  simp only [parseItem, Text.splitOnce?_append_cons simple]

theorem legible_parseItem (neat : Text.Neat item) (whole : ',' ∉ item) :
    Legible (parseItem item) := by
  by_cases assigned : '=' ∈ item
  · obtain ⟨key, value, rfl, simple⟩ := List.eq_append_cons_of_mem assigned
    rw [parseItem_assigned simple]
    constructor <;> simp only [String.toList_ofList]
    · exact Text.neat_trim key
    · exact Text.neat_trim value
    · intro comma
      apply whole
      simp [Text.mem_of_mem_trim comma]
    · intro comma
      apply whole
      simp [Text.mem_of_mem_trim comma]
    · exact fun equals => simple (Text.mem_of_mem_trim equals)
  · rw [parseItem_bare assigned]
    constructor <;> simp only [String.toList_ofList]
    · exact neat
    · exact Text.neat_nil
    · exact whole
    · exact List.not_mem_nil
    · exact assigned

/-- Only a lone equals sign gives a pair without key and value. -/
theorem nameless_parseItem_iff (neat : Text.Neat item) (filled : item ≠ []) :
    Nameless (parseItem item) ↔ item = ['='] := by
  constructor
  · intro nameless
    by_cases assigned : '=' ∈ item
    · obtain ⟨key, value, rfl, simple⟩ := List.eq_append_cons_of_mem assigned
      rw [Nameless, parseItem_assigned simple, Prod.mk.injEq, String.ofList_eq_empty_iff,
        String.ofList_eq_empty_iff] at nameless
      obtain ⟨key_blank, value_blank⟩ := nameless
      obtain rfl := neat.eq_nil_of_trim_left key_blank
      have neat : Text.Neat (['='] ++ value) := neat
      obtain rfl := neat.eq_nil_of_trim_right value_blank
      rfl
    · rw [Nameless, parseItem_bare assigned, Prod.mk.injEq, String.ofList_eq_empty_iff] at nameless
      exact absurd nameless.1 filled
  · rintro rfl
    decide

theorem mem_parse_iff {input : String} : pair ∈ (parse input).pairs ↔
    ∃ item ∈ Text.split ',' input.toList,
      Text.trim item ≠ [] ∧ parseItem (Text.trim item) = pair := by
  simp [parse, and_assoc]

theorem legible_of_mem_parse {input : String} : ∀ pair ∈ (parse input).pairs, Legible pair := by
  intro pair member
  obtain ⟨item, place, -, rfl⟩ := mem_parse_iff.mp member
  apply legible_parseItem (Text.neat_trim item)
  exact fun comma => Text.not_mem_of_mem_split item place (Text.mem_of_mem_trim comma)

private theorem toList_displayItem (pair : String × String) : (displayItem pair).toList =
    if pair.2 = "" then pair.1.toList else pair.1.toList ++ '=' :: pair.2.toList := by
  unfold displayItem
  by_cases bare : pair.2 = ""
  · simp [bare]
  · simp [bare]

theorem displayItem_eq_nil_iff :
    (displayItem pair).toList = [] ↔ Nameless pair := by
  rw [toList_displayItem, Nameless, Prod.ext_iff]
  by_cases bare : pair.2 = ""
  · simp [bare]
  · simp [bare]

namespace Legible

theorem whole_displayItem (legible : Legible pair) : ',' ∉ (displayItem pair).toList := by
  rw [toList_displayItem]
  by_cases bare : pair.2 = ""
  · simpa [bare] using legible.key_whole
  · simp [bare, legible.key_whole, legible.value_whole]

theorem neat_displayItem (legible : Legible pair) : Text.Neat (displayItem pair).toList := by
  rw [toList_displayItem]
  by_cases bare : pair.2 = ""
  · simpa [bare] using legible.key_neat
  · simpa [bare] using legible.key_neat.append_cons legible.value_neat (by decide)

theorem parseItem_displayItem (legible : Legible pair) :
    parseItem (displayItem pair).toList = pair := by
  rw [toList_displayItem]
  by_cases bare : pair.2 = ""
  · rw [if_pos bare, parseItem_bare legible.key_simple, String.ofList_toList, ← bare]
  · rw [if_neg bare, parseItem_assigned legible.key_simple, Text.trim_of_neat legible.key_neat,
      Text.trim_of_neat legible.value_neat, String.ofList_toList, String.ofList_toList]

end Legible

private theorem toList_display (arguments : DeviceArguments) : (display arguments).toList =
    [','].intercalate (arguments.pairs.map fun pair => (displayItem pair).toList) := by
  rw [display, String.toList_intercalate, List.map_map]
  rfl

/-- The items that are read where arguments were written. -/
private theorem items_display (legible : ∀ pair ∈ arguments.pairs, Legible pair) :
    ((Text.split ',' (display arguments).toList).map Text.trim).filter (fun item => !item.isEmpty) =
      (arguments.pairs.filter fun pair => ¬Nameless pair).map fun pair =>
        (displayItem pair).toList := by
  by_cases none : arguments.pairs = []
  · rw [toList_display, none]
    rfl
  · have written : ∀ item ∈ arguments.pairs.map fun pair => (displayItem pair).toList,
        Text.trim item = id item ∧ ',' ∉ item := by
      intro item member
      obtain ⟨pair, place, rfl⟩ := List.mem_map.mp member
      exact ⟨Text.trim_of_neat (legible pair place).neat_displayItem,
        (legible pair place).whole_displayItem⟩
    have kept (pair : String × String) :
        (!(displayItem pair).toList.isEmpty) = decide (¬Nameless pair) := by
      by_cases nameless : Nameless pair
      · simp [nameless, displayItem_eq_nil_iff.mpr nameless]
      · simp [nameless, mt displayItem_eq_nil_iff.mp nameless]
    rw [toList_display, Text.split_intercalate (mt List.map_eq_nil_iff.mp none)
      fun item member => (written item member).2,
      List.map_congr_left fun item member => (written item member).1, List.map_id,
      List.filter_map]
    simp only [Function.comp_def, kept]

/-- **What is written is read back** but for the pairs without key and value. -/
theorem parse_display (legible : ∀ pair ∈ arguments.pairs, Legible pair) :
    parse (display arguments) = ⟨arguments.pairs.filter fun pair => ¬Nameless pair⟩ := by
  have back : ∀ pair ∈ arguments.pairs.filter fun pair => ¬Nameless pair,
      (parseItem ∘ fun pair => (displayItem pair).toList) pair = id pair := by
    intro pair member
    exact (legible pair (List.mem_of_mem_filter member)).parseItem_displayItem
  simp only [parse, items_display legible, List.map_map]
  rw [List.map_congr_left back, List.map_id]

theorem get?_filter {key : String} (named : key ≠ "") :
    get? ⟨arguments.pairs.filter fun pair => ¬Nameless pair⟩ key = get? arguments key := by
  have kept (pair : String × String) :
      decide (decide (¬Nameless pair) = true ∧ (pair.1 == key) = true) = (pair.1 == key) := by
    by_cases here : pair.1 = key
    · simp [here, named, Nameless, Prod.ext_iff]
    · simp [here]
  simp only [get?, ← List.filter_reverse, List.find?_filter, kept]

/-- **Arguments survive being written.** Reading them again loses the pairs without key and value
and nothing else, so all of them are back just if no item is a lone equals sign, nothing more is
lost the next time, and no key that is not empty has another value. -/
theorem parse_display_parse (input : String) :
    parse (display (parse input)) = ⟨(parse input).pairs.filter fun pair => ¬Nameless pair⟩ ∧
      (parse (display (parse input)) = parse input ↔
        ∀ item ∈ Text.split ',' input.toList, Text.trim item ≠ ['=']) ∧
      parse (display (parse (display (parse input)))) = parse (display (parse input)) ∧
      ∀ key, key ≠ "" → (parse (display (parse input))).get? key = (parse input).get? key := by
  have legible : ∀ pair ∈ (parse input).pairs, Legible pair := legible_of_mem_parse
  have reads := parse_display legible
  refine ⟨reads, ?_, ?_, ?_⟩
  · have named : parse (display (parse input)) = parse input ↔
        ∀ pair ∈ (parse input).pairs, ¬Nameless pair := by
      rw [reads]
      change DeviceArguments.mk _ = ⟨(parse input).pairs⟩ ↔ _
      simp
    rw [named]
    constructor
    · intro named item member lone
      have filled : Text.trim item ≠ [] := by simp [lone]
      apply named _ (mem_parse_iff.mpr ⟨item, member, filled, rfl⟩)
      exact (nameless_parseItem_iff (Text.neat_trim item) filled).mpr lone
    · intro apart pair member nameless
      obtain ⟨item, place, filled, rfl⟩ := mem_parse_iff.mp member
      exact apart item place ((nameless_parseItem_iff (Text.neat_trim item) filled).mp nameless)
  · have legible' : ∀ pair ∈ (parse (display (parse input))).pairs, Legible pair :=
      legible_of_mem_parse
    rw [parse_display legible', reads]
    simp
  · intro key named
    rw [reads, get?_filter named]

/-- An equals sign between blanks, one more behind the first of an item, and a value of nobody. -/
theorem parse_display_parse_lone :
    (parse " = ,seed = 7==,,=, = v,quiet").pairs =
        [("", ""), ("seed", "7=="), ("", ""), ("", "v"), ("quiet", "")] ∧
      (parse (display (parse " = ,seed = 7==,,=, = v,quiet"))).pairs =
        [("seed", "7=="), ("", "v"), ("quiet", "")] ∧
      "seed" ≠ "" ∧
      (parse (display (parse " = ,seed = 7==,,=, = v,quiet"))).get? "seed" =
        (parse " = ,seed = 7==,,=, = v,quiet").get? "seed" := by
  obtain ⟨reads, -, -, keeps⟩ := parse_display_parse " = ,seed = 7==,,=, = v,quiet"
  have named : "seed" ≠ "" := by decide
  have pairs : (parse " = ,seed = 7==,,=, = v,quiet").pairs =
      [("", ""), ("seed", "7=="), ("", ""), ("", "v"), ("quiet", "")] := by
    decide +kernel
  refine ⟨pairs, ?_, named, keeps "seed" named⟩
  rw [reads, pairs]
  rfl

end DeviceArguments

end LoopbackCalibration
