import NumberingPlan.Emergency
import NumberingPlan.Pattern.Path
import NumberingPlan.Proofs.Pattern.Nesting
import NumberingPlan.Proofs.Pattern.Group
import NumberingPlan.Proofs.Pattern.Ending
import NumberingPlan.Proofs.Pattern.Growth
import NumberingPlan.Proofs.Outcome
import NumberingPlan.Proofs.Text.Decimal
import NumberingPlan.Proofs.Agreement
import NumberingPlan.Proofs.Failure
import NumberingPlan.Proofs.Territory.Checks
import NumberingPlan.Proofs.Territory.Formats
import NumberingPlan.Proofs.Territory.Descriptions
import NumberingPlan.Proofs.Territory.Records
import NumberingPlan.Proofs.Territory.Patterns
import NumberingPlan.Proofs.Territory.Acceptance
import NumberingPlan.Proofs.Territory.RuleByRule
import NumberingPlan.Proofs.Territory.NationalSide
import NumberingPlan.Proofs.Territory.StoppedRules
import NumberingPlan.Proofs.Territory.Inheritance
import NumberingPlan.Proofs.Territory.Independence
import NumberingPlan.Proofs.Territory.Samples
import NumberingPlan.Proofs.Territory.Defects
import NumberingPlan.Proofs.Territory.CallingCode
import NumberingPlan.Proofs.Territory.StoppedDescriptions
import NumberingPlan.Proofs.Territory.Consistency
import NumberingPlan.Proofs.Territory.Reading
import NumberingPlan.Proofs.Territory.Equivalence
import NumberingPlan.Proofs.Territory.Spacing
import NumberingPlan.Proofs.Territory.InternationalSide
import NumberingPlan.Proofs.Territory.NormalForm
import NumberingPlan.Proofs.Text.Substitute
import NumberingPlan.Proofs.Territory.Placeholders
import NumberingPlan.Proofs.Registry.Lookup
import NumberingPlan.Proofs.Registry.CodeIndex
import NumberingPlan.Proofs.Registry.CallingCodes
import NumberingPlan.Proofs.Registry.Coherence
import NumberingPlan.Proofs.Registry.Entries
import NumberingPlan.Proofs.Registry.Order
import NumberingPlan.Proofs.Emergency.Anchor
import NumberingPlan.Proofs.Emergency.Answers
import NumberingPlan.Proofs.Emergency.Binding
import NumberingPlan.Proofs.Emergency.Samples
import NumberingPlan.Proofs.Emergency.Cache
import NumberingPlan.Proofs.Emergency.Inclusion
import NumberingPlan.Proofs.Emergency.Star
import NumberingPlan.Proofs.Emergency.EndBound
import NumberingPlan.Proofs.Emergency.Trailing
import NumberingPlan.Proofs.Emergency.Spelling
