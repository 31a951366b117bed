import NovaValidation.ParameterTypes.Printable
import NovaValidation.Regex.Syntax
import NovaValidation.Regex.Parser
import NovaValidation.Regex.ClassBody
import NovaValidation.Regex.Semantics
import NovaValidation.Regex.Width
import NovaValidation.Regex.WellFormed
import NovaValidation.Regex.Anchored
import NovaValidation.ParameterTypes.RegexRange
import NovaValidation.ParameterTypes.Patterns
import NovaValidation.ParameterTypes.ValidName
import NovaValidation.ParameterTypes.LeadingTrailingSpaces
import NovaValidation.ParameterTypes.NameVariants
import NovaValidation.ParameterTypes.Description
import NovaValidation.ParameterTypes.Memorize
import NovaValidation.ParameterTypes.Schemas
import NovaValidation.ParameterTypes.KeypairName
import NovaValidation.Doc.VersionedNotifications
import NovaValidation.Compute.Keypairs
