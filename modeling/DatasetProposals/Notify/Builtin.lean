import DatasetProposals.Notify.Template
/-! The built-in email templates, one per event, and the file names they are stored under in
a template bucket. -/
namespace DatasetProposals
namespace Event

def submittedTemplate : String :=
  "<html>\n" ++
  "  <body>\n" ++
  "    <p>A dataset proposal has been submitted to <strong>$\x7bWorkspaceName\x7d</strong>.</p>\n" ++
  "    <p>\n" ++
  "      Title: $\x7bProposalTitle\x7d<br/>\n" ++
  "      Author: $\x7bAuthorName\x7d ($\x7bAuthorEmail\x7d)\n" ++
  "    </p>\n" ++
  "    <p>\n" ++
  "      Review it in the workspace:\n" ++
  "      <a href=\"https://$\x7bAppURL\x7d/$\x7bWorkspaceNodeId\x7d/proposals\">https://$\x7bAppURL\x7d/$\x7bWorkspaceNodeId\x7d/proposals</a>\n" ++
  "    </p>\n" ++
  "  </body>\n" ++
  "</html>\n"

def withdrawnTemplate : String :=
  "<html>\n" ++
  "  <body>\n" ++
  "    <p>The dataset proposal <strong>$\x7bProposalTitle\x7d</strong> submitted to $\x7bWorkspaceName\x7d has been withdrawn by its author.</p>\n" ++
  "    <p>Author: $\x7bAuthorName\x7d ($\x7bAuthorEmail\x7d)</p>\n" ++
  "    <p><a href=\"https://$\x7bAppURL\x7d/$\x7bWorkspaceNodeId\x7d/proposals\">View proposals</a></p>\n" ++
  "  </body>\n" ++
  "</html>\n"

def acceptedTemplate : String :=
  "<html>\n" ++
  "  <body>\n" ++
  "    <p>Dear $\x7bAuthorName\x7d,</p>\n" ++
  "    <p>Your dataset proposal <strong>$\x7bProposalTitle\x7d</strong> has been accepted by $\x7bWorkspaceName\x7d.</p>\n" ++
  "    <p>\n" ++
  "      A dataset has been created for you. You can find it from the welcome workspace:\n" ++
  "      <a href=\"https://$\x7bAppURL\x7d/$\x7bWelcomeWorkspaceNodeId\x7d/datasets\">https://$\x7bAppURL\x7d/$\x7bWelcomeWorkspaceNodeId\x7d/datasets</a>\n" ++
  "    </p>\n" ++
  "  </body>\n" ++
  "</html>\n"

def rejectedTemplate : String :=
  "<html>\n" ++
  "  <body>\n" ++
  "    <p>Dear $\x7bAuthorName\x7d,</p>\n" ++
  "    <p>Your dataset proposal <strong>$\x7bProposalTitle\x7d</strong> was not accepted by $\x7bWorkspaceName\x7d.</p>\n" ++
  "    <p>\n" ++
  "      You can review your proposals at\n" ++
  "      <a href=\"https://$\x7bAppURL\x7d/$\x7bWelcomeWorkspaceNodeId\x7d/proposals\">https://$\x7bAppURL\x7d/$\x7bWelcomeWorkspaceNodeId\x7d/proposals</a>\n" ++
  "    </p>\n" ++
  "  </body>\n" ++
  "</html>\n"

def builtinTemplate : Event → String
  | .submitted => submittedTemplate
  | .withdrawn => withdrawnTemplate
  | .accepted => acceptedTemplate
  | .rejected => rejectedTemplate

def templateFile : Event → String
  | .submitted => "proposal_submitted.html"
  | .withdrawn => "proposal_withdrawn.html"
  | .accepted => "proposal_accepted.html"
  | .rejected => "proposal_rejected.html"

end Event
end DatasetProposals
