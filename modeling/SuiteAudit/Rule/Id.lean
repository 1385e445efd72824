import SuiteAudit.Text.Basic

/-!
# Rules by name

The rules that a suite is checked against, in their order.
-/

namespace SuiteAudit

inductive RuleId
  | noDescription
  | numbersInDescription
  | emptyFeature
  | backgroundWithNoScenarios
  | backgroundWithOneScenario
  | tooManyScenarios
  | sameTagOnAllScenarios
  | tooManyTags
  | duplicateTag
  | commentedTag
  | backgroundWithTag
  | noSteps
  | tooManySteps
  | outOfOrderSteps
  | invalidFirstStep
  | asteriskStep
  | oneWordStep
  | commentedStep
  | implementationWord
  | dateUsed
  | noExamplesTable
  | noExamples
  | oneExample
  | tooManyExamples
  | commentedExample
  | noCode
  | tooManyParameters
  | nestedStep
  | recursiveNestedStep
  | universalMatch
  | commentedCode
  | lazyDebugging
  | pending
  | smallSleep
  | largeSleep
  | todo
  | emptyHook
  | hookAllComments
  | hookNoDebugging
  | hookConflictingTags
  | hookDuplicateTags
  | aroundHookWithout2Parameters
  | aroundHookNoBlockCall
deriving DecidableEq, Repr

namespace RuleId

def text : RuleId → Text
  | noDescription => "no_description"
  | numbersInDescription => "numbers_in_description"
  | emptyFeature => "empty_feature"
  | backgroundWithNoScenarios => "background_with_no_scenarios"
  | backgroundWithOneScenario => "background_with_one_scenario"
  | tooManyScenarios => "too_many_scenarios"
  | sameTagOnAllScenarios => "same_tag_on_all_scenarios"
  | tooManyTags => "too_many_tags"
  | duplicateTag => "duplicate_tag"
  | commentedTag => "commented_tag"
  | backgroundWithTag => "background_with_tag"
  | noSteps => "no_steps"
  | tooManySteps => "too_many_steps"
  | outOfOrderSteps => "out_of_order_steps"
  | invalidFirstStep => "invalid_first_step"
  | asteriskStep => "asterisk_step"
  | oneWordStep => "one_word_step"
  | commentedStep => "commented_step"
  | implementationWord => "implementation_word"
  | dateUsed => "date_used"
  | noExamplesTable => "no_examples_table"
  | noExamples => "no_examples"
  | oneExample => "one_example"
  | tooManyExamples => "too_many_examples"
  | commentedExample => "commented_example"
  | noCode => "no_code"
  | tooManyParameters => "too_many_parameters"
  | nestedStep => "nested_step"
  | recursiveNestedStep => "recursive_nested_step"
  | universalMatch => "universal_match"
  | commentedCode => "commented_code"
  | lazyDebugging => "lazy_debugging"
  | pending => "pending"
  | smallSleep => "small_sleep"
  | largeSleep => "large_sleep"
  | todo => "todo"
  | emptyHook => "empty_hook"
  | hookAllComments => "hook_all_comments"
  | hookNoDebugging => "hook_no_debugging"
  | hookConflictingTags => "hook_conflicting_tags"
  | hookDuplicateTags => "hook_duplicate_tags"
  | aroundHookWithout2Parameters => "around_hook_without_2_parameters"
  | aroundHookNoBlockCall => "around_hook_no_block_call"

def all : List RuleId :=
  [noDescription, numbersInDescription, emptyFeature, backgroundWithNoScenarios,
   backgroundWithOneScenario, tooManyScenarios, sameTagOnAllScenarios, tooManyTags, duplicateTag,
   commentedTag, backgroundWithTag, noSteps, tooManySteps, outOfOrderSteps, invalidFirstStep,
   asteriskStep, oneWordStep, commentedStep, implementationWord, dateUsed, noExamplesTable,
   noExamples, oneExample, tooManyExamples, commentedExample, noCode, tooManyParameters,
   nestedStep, recursiveNestedStep, universalMatch, commentedCode, lazyDebugging, pending,
   smallSleep, largeSleep, todo, emptyHook, hookAllComments, hookNoDebugging,
   hookConflictingTags, hookDuplicateTags, aroundHookWithout2Parameters, aroundHookNoBlockCall]

def ofText? (t : Text) : Option RuleId := all.find? fun r => r.text = t

def order (a b : RuleId) : Ordering := compare (all.idxOf a) (all.idxOf b)

def requiredConditions : RuleId → List Text
  | tooManyScenarios | tooManyTags | tooManySteps | tooManyExamples | tooManyParameters
  | smallSleep => ["max"]
  | largeSleep => ["min"]
  | _ => []

end RuleId

end SuiteAudit
