import Calculator.Desk
import Calculator.Expr.Postfix
import Calculator.Proofs.Syntax
import Calculator.Proofs.Continuing
import Calculator.Proofs.Typing
import Calculator.Proofs.Lexemes
import Calculator.Proofs.Trees
import Calculator.Proofs.Restoring
import Calculator.Proofs.Reachable
import Calculator.Proofs.Compound
import Calculator.Proofs.Exactness
import Calculator.Proofs.Finiteness
import Calculator.Proofs.History
import Calculator.Proofs.Integers
import Calculator.Proofs.Machine
import Calculator.Proofs.Pointed
import Calculator.Proofs.Quoting
import Calculator.Proofs.Storing
import Calculator.Proofs.Saving
import Calculator.Proofs.Canonical
import Calculator.Proofs.Spacing
import Calculator.Proofs.Rereading
import Calculator.Proofs.Repeating
import Calculator.Proofs.Agreement
import Calculator.Proofs.Monotone
import Calculator.Proofs.Working
import Calculator.Proofs.Angles
import Calculator.Proofs.Settings
import Calculator.Proofs.Spelling
import Calculator.Proofs.Erasing
import Calculator.Proofs.Failing
import Calculator.Proofs.Nesting
import Calculator.Proofs.Literals
