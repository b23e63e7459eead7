import DocTag.Main
import DocTag.Session.Step
import DocTag.Proofs.Heading
import DocTag.Proofs.Reading
import DocTag.Proofs.Sections
import DocTag.Proofs.Item
import DocTag.Proofs.Run
import DocTag.Proofs.Translation
import DocTag.Proofs.Failure
import DocTag.Proofs.Lines
import DocTag.Proofs.SectionOrder
import DocTag.Proofs.Conservation
import DocTag.Proofs.Indentation
import DocTag.Proofs.Tags
import DocTag.Proofs.SecondPass
import DocTag.Proofs.Discipline
import DocTag.Proofs.Tally
import DocTag.Proofs.Delivery
import DocTag.Proofs.Course
import DocTag.Proofs.Events
import DocTag.Proofs.Usable
import DocTag.Proofs.ExitStatus
import DocTag.Proofs.Encoding
import DocTag.Proofs.ReadBack
import DocTag.Proofs.Styles
import DocTag.Proofs.Choices
import DocTag.Proofs.WriteBack
import DocTag.Proofs.LineBreaks
import DocTag.Proofs.HeadingLines
import DocTag.Proofs.LastLine
import DocTag.Proofs.Exchange
import DocTag.Proofs.Recognition
